import SstCam.Domain.Frame

/-!
# GStreamerAdapter

The camera adapter (`adapters/capture/frame/gstreamer`): an appsink that keeps the newest samples,
and a capture that takes the last of them, or else answers with the frame it answered last. What
GStreamer does on its own is an input: the samples that arrive, the messages on the bus, whether
the pipeline comes up. The frame counter is not reset, so no two frames have one id.
-/

namespace SstCam
set_option autoImplicit false

inductive GstVideoFormat where
  | bgr
  | bgra
  | nv12
  | i420
  | yuy2
  | rgb
  | rgba
  | gray8
  | other
  deriving DecidableEq, Repr

def GstVideoFormat.toPixelFormat : GstVideoFormat → Option PixelFormat
  | .bgr => some .bgr8
  | .bgra => some .bgra8
  | .nv12 => some .nv12
  | .i420 => some .i420
  | .yuy2 => some .yuyv
  | .rgb => some .rgb8
  | .rgba => some .rgba8
  | .gray8 => some .gray8
  | .other => none

structure GstPlaneInfo where
  stride : Nat
  offset : Nat
  deriving DecidableEq, Repr

structure GstVideoInfo where
  format : GstVideoFormat
  width : Nat
  height : Nat
  planes : List GstPlaneInfo
  deriving DecidableEq, Repr

/-- A mapped buffer: its address, unless that is null, and its size. -/
structure GstMapInfo where
  data : Option Nat
  size : Nat
  deriving DecidableEq, Repr

/-- A sample: `info` if it has caps and these are of raw video, `map` if it has a buffer and this
can be mapped. -/
structure GstSample where
  info : Option GstVideoInfo
  map : Option GstMapInfo
  deriving DecidableEq, Repr

/-- Where the plane at an offset ends: at the next offset, else at the end of the buffer. -/
def planeEnd (mappedSize offset : Nat) (planes : List GstPlaneInfo) : Nat :=
  planes.foldl (fun last plane => if plane.offset > offset ∧ plane.offset < last then plane.offset else last) mappedSize

/-- The plane of the mapped buffer at an offset. -/
def framePlane (mappedData mappedSize : Nat) (planes : List GstPlaneInfo) (plane : GstPlaneInfo) : Option FramePlane :=
  if plane.offset ≥ mappedSize then none
  else if planeEnd mappedSize plane.offset planes ≤ plane.offset then none
  else
    let size := planeEnd mappedSize plane.offset planes - plane.offset
    if size = 0 ∨ plane.offset + size > mappedSize then none
    else some { stride := plane.stride, data := some (mappedData + plane.offset), size }

/-- The planes of a mapped buffer, which has an address and bytes for each of them. -/
def GstMapInfo.framePlanes (info : GstVideoInfo) (map : GstMapInfo) : Option (List FramePlane) :=
  match info.planes, map.data with
  | [], _ => none
  | _, none => none
  | _, some mappedData =>
    if map.size = 0 then none else info.planes.mapM (framePlane mappedData map.size info.planes)

/-- The frame of the planes, if its format is one the pipeline knows. -/
def GstMapInfo.frame (info : GstVideoInfo) (planes : List FramePlane) (frameId now : Nat) (map : GstMapInfo) : Option Frame :=
  info.format.toPixelFormat.map fun format =>
    { frameId, format, memory := .cpu, planes, capturedAt := now, owner := map.data,
      geometry := { width := info.width, height := info.height } }

theorem GstMapInfo.framePlanes_some {info : GstVideoInfo} {map : GstMapInfo} {planes : List FramePlane}
    (cut : map.framePlanes info = some planes) : info.planes ≠ [] ∧ ∃ base, map.data = some base ∧
      info.planes.mapM (framePlane base map.size info.planes) = some planes := by
  unfold framePlanes at cut
  split at cut
  · cases cut
  · cases cut
  case h_3 base data some' =>
    split at cut
    · cases cut
    · exact ⟨some', base, data, cut⟩

theorem GstMapInfo.frame_some {info : GstVideoInfo} {map : GstMapInfo} {planes : List FramePlane} {frameId now : Nat}
    {frame : Frame} (made : map.frame info planes frameId now = some frame) :
    frame.frameId = frameId ∧ frame.planes = planes ∧ info.format.toPixelFormat = some frame.format ∧
      frame.geometry = { width := info.width, height := info.height } := by
  obtain ⟨format, known, rfl⟩ := Option.map_eq_some_iff.1 made
  exact ⟨rfl, rfl, known, rfl⟩

structure GstPipeline where
  /-- The samples the appsink holds, the oldest first. -/
  samples : List GstSample := []
  /-- An error or the end of the stream waits on the bus. -/
  failed : Bool := false
  deriving DecidableEq, Repr

/-- Of so many samples the appsink drops the oldest. -/
def maxBuffers : Nat := 5

structure GStreamerAdapter where
  pipeline : Option GstPipeline := none
  isRunning : Bool := false
  frameCounter : Nat := 0
  lastFrame : Option Frame := none
  deriving DecidableEq, Repr

namespace GStreamerAdapter

/-- The planes come first; the counter moves on before the format is looked at. -/
def createFrameFromSample (now : Nat) (sample : GstSample) (a : GStreamerAdapter) : GStreamerAdapter × Option Frame :=
  match sample.info, sample.map with
  | some info, some map =>
    match map.framePlanes info with
    | none => (a, none)
    | some planes => ({ a with frameCounter := a.frameCounter + 1 }, map.frame info planes a.frameCounter now)
  | _, _ => (a, none)

/-- Converts a sample and keeps the frame, if it is one. -/
def keepFrame (now : Nat) (sample : GstSample) (a : GStreamerAdapter) : GStreamerAdapter × Option Frame :=
  match a.createFrameFromSample now sample with
  | (a, none) => (a, none)
  | (a, some frame) => ({ a with lastFrame := some frame }, some frame)

def start (comesUp : Bool) (prime : Option GstSample) (now : Nat) (a : GStreamerAdapter) : GStreamerAdapter :=
  if a.isRunning then a
  else if !comesUp then a
  else
    let a := { a with pipeline := some {}, isRunning := true }
    match prime with
    | none => a
    | some sample => (a.keepFrame now sample).1

def stop (a : GStreamerAdapter) : GStreamerAdapter :=
  { a with pipeline := none, lastFrame := none, isRunning := false }

def running (a : GStreamerAdapter) : Bool := a.isRunning && a.pipeline.isSome

/-- A sample comes to the appsink. -/
def sample (s : GstSample) (a : GStreamerAdapter) : GStreamerAdapter :=
  match a.pipeline with
  | none => a
  | some p =>
    let kept := if p.samples.length < maxBuffers then p.samples else p.samples.tail
    { a with pipeline := some { p with samples := kept ++ [s] } }

/-- A fault comes to the bus. -/
def fault (a : GStreamerAdapter) : GStreamerAdapter :=
  { a with pipeline := a.pipeline.map fun p => { p with failed := true } }

/-- Takes the samples that are there, and converts the last. -/
def capture (now : Nat) (a : GStreamerAdapter) : GStreamerAdapter × Option Frame :=
  if !a.isRunning then (a, none)
  else
    match a.pipeline with
    | none => (a, none)
    | some p =>
      if p.failed then (a.stop, none)
      else
        let drained := { a with pipeline := some { p with samples := [] } }
        match p.samples.getLast? with
        | none => (drained, drained.lastFrame)
        | some sample =>
          match drained.keepFrame now sample with
          | (a, none) => (a, a.lastFrame)
          | (a, some fresh) => (a, some fresh)

end GStreamerAdapter

end SstCam
