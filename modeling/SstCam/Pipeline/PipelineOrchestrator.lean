import SstCam.Buffer.LatestOnlySlot
import SstCam.Capture.GStreamerAdapter
import SstCam.Overlay.FrameCompositor
import SstCam.Processing.OpenCvStages

/-!
# PipelineOrchestrator

A producer thread for each camera and one consumer thread
(`app/pipeline/services/orchestrator/pipeline-orchestrator.cpp`). The machine takes one loop
iteration of a thread or one arrival at a camera at a time, or a call of `Start` or `Stop`, which
come one after the other: an iteration touches what its thread owns, and the slots, which have locks
of their own. `Stop` first closes the slots, and then joins the threads, which finish what they are
at. The sinks are known by what was handed to them.
-/

namespace SstCam
set_option autoImplicit false

/-- Which camera to present, and the region of it to keep. -/
structure CameraChoice where
  cameraIndex : Nat := 0
  crop : CropRect := {}
  deriving DecidableEq, Repr

/-- Camera 0, the whole frame. -/
def StaticDecision.decide (cameras : List (Option FrameBundle)) : Option CameraChoice :=
  match cameras with
  | some bundle :: _ =>
    if bundle.sourceFrame.geometry.width = 0 ∨ bundle.sourceFrame.geometry.height = 0 then none
    else
      some
        { cameraIndex := 0
          crop := { width := bundle.sourceFrame.geometry.width, height := bundle.sourceFrame.geometry.height } }
  | _ => none

/-- What an iteration finds: the time, memory, and the addresses of the buffers it allocates. -/
structure StageEnv where
  now : Nat := 0
  mem : Memory := fun _ => 0
  buf : Nat := 0
  frameBuf : Nat := 0

/-- One camera with its stages and its slot. -/
structure CameraChain where
  capture : GStreamerAdapter := {}
  preprocessor : PreprocessConfig := {}
  slot : LatestOnlySlot FrameBundle := {}
  /-- The frames handed to the raw-capture sink, the oldest first. -/
  toRawSink : List Frame := []
  /-- The frames handed to the slot, the oldest first. -/
  toSlot : List Frame := []
  deriving DecidableEq, Repr

namespace CameraChain

/-- Hands a bundle on: to the raw-capture sink, if there is one, and to the slot. -/
def handOn (rawSink : Bool) (bundle : FrameBundle) (c : CameraChain) : CameraChain :=
  { c with
    toRawSink := if rawSink then c.toRawSink ++ [bundle.sourceFrame] else c.toRawSink
    toSlot := c.toSlot ++ [bundle.sourceFrame]
    slot := (c.slot.push bundle).1 }

/-- An iteration of the producer. -/
def produce (rawSink : Bool) (env : StageEnv) (c : CameraChain) : CameraChain :=
  match c.capture.capture env.now with
  | (capture, none) => { c with capture }
  | (capture, some raw) =>
    match OpenCvPreprocessor.process c.preprocessor env.mem env.buf raw with
    -- nothing catches it: the process ends here
    | .error _ => { c with capture }
    | .ok none => { c with capture }
    | .ok (some bundle) =>
      handOn rawSink { bundle with sourceFrame := materializeFrame env.frameBuf bundle.sourceFrame } { c with capture }

/-- Starts the captures in turn. If one does not run the earlier ones are stopped again. -/
def startAll (comesUp : Nat → Bool) (prime : Nat → Option GstSample) (now : Nat) :
    Nat → List CameraChain → List CameraChain × Bool
  | _, [] => ([], true)
  | i, c :: cs =>
    let started := c.capture.start (comesUp i) (prime i) now
    if !started.running then ({ c with capture := started } :: cs, false)
    else
      match startAll comesUp prime now (i + 1) cs with
      | (cs, true) => ({ c with capture := started } :: cs, true)
      | (cs, false) => ({ c with capture := started.stop } :: cs, false)

end CameraChain

structure PipelineOrchestrator where
  cameras : List CameraChain
  postprocessor : PostprocessConfig := {}
  rawSink : Bool := false
  running : Bool := false
  /-- A stop waits for the threads. -/
  joining : Bool := false
  latestFrame : Option Frame := none
  /-- The frames pushed to the final sink, the oldest first. -/
  toSink : List Frame := []
  deriving DecidableEq, Repr

inductive PipelineEvent where
  | start (comesUp : Nat → Bool) (prime : Nat → Option GstSample) (now : Nat)
  | stop
  | join
  | sample (camera : Nat) (s : GstSample)
  | fault (camera : Nat)
  | produce (camera : Nat) (env : StageEnv)
  | consume (overlay : Option RgbaImage) (env : StageEnv)

namespace PipelineOrchestrator

/-- The orchestrator as it is constructed. -/
def create (preprocessors : List PreprocessConfig) (postprocessor : PostprocessConfig) (rawSink : Bool) :
    PipelineOrchestrator where
  cameras := preprocessors.map fun preprocessor => { preprocessor }
  postprocessor := postprocessor
  rawSink := rawSink

def start (comesUp : Nat → Bool) (prime : Nat → Option GstSample) (now : Nat) (s : PipelineOrchestrator) :
    PipelineOrchestrator × Bool :=
  if s.running then (s, true)
  else if s.cameras = [] then (s, false)
  else
    match CameraChain.startAll comesUp prime now 0 s.cameras with
    | (cameras, false) => ({ s with cameras }, false)
    | (cameras, true) => ({ s with cameras, running := true }, true)

/-- `Stop` up to the join. -/
def stop (s : PipelineOrchestrator) : PipelineOrchestrator :=
  if !s.running then s
  else { s with running := false, joining := true, cameras := s.cameras.map fun c => { c with slot := c.slot.close } }

/-- The rest of `Stop`, once the threads are joined. -/
def join (s : PipelineOrchestrator) : PipelineOrchestrator :=
  { s with joining := false, cameras := s.cameras.map fun c => { c with capture := c.capture.stop } }

/-- Changes one camera. -/
def atCamera (camera : Nat) (f : CameraChain → CameraChain) (s : PipelineOrchestrator) : PipelineOrchestrator :=
  { s with cameras := s.cameras.modify camera f }

/-- The latest bundle of each camera, as the consumer takes it from the slots. -/
def latest (s : PipelineOrchestrator) : List (Option FrameBundle) := s.cameras.map (·.slot.take.2)

/-- The overlay, if there is one and it fits the frame, is drawn onto the frame. -/
def overlaid (overlay : Option RgbaImage) (env : StageEnv) (final : Frame) : Frame :=
  match overlay with
  | none => final
  | some overlay => ((compositeOverlay env.mem env.buf final overlay).map Prod.fst).getD final

/-- An iteration of the consumer. -/
def consume (decide : List (Option FrameBundle) → Option CameraChoice) (overlay : Option RgbaImage) (env : StageEnv)
    (s : PipelineOrchestrator) : PipelineOrchestrator :=
  let taken := { s with cameras := s.cameras.map fun c => { c with slot := c.slot.take.1 } }
  match decide s.latest with
  | none => taken
  | some choice =>
    match s.latest[choice.cameraIndex]? with
    | some (some chosen) =>
      match OpenCvPostprocessor.process s.postprocessor env.mem env.frameBuf chosen.sourceFrame choice.crop with
      -- nothing catches it: the process ends here
      | .error _ => taken
      | .ok none => taken
      | .ok (some final) =>
        { taken with
          latestFrame := some (overlaid overlay env final)
          toSink := s.toSink ++ [overlaid overlay env final] }
    | _ => taken

/-- No call comes before a stop has returned, and no thread runs behind it. -/
def step (decide : List (Option FrameBundle) → Option CameraChoice) (s : PipelineOrchestrator) :
    PipelineEvent → PipelineOrchestrator
  | .start comesUp prime now => if s.joining then s else (s.start comesUp prime now).1
  | .stop => if s.joining then s else s.stop
  | .join => if s.joining then s.join else s
  | .sample camera sample => s.atCamera camera fun c => { c with capture := c.capture.sample sample }
  | .fault camera => s.atCamera camera fun c => { c with capture := c.capture.fault }
  | .produce camera env => if s.running || s.joining then s.atCamera camera (·.produce s.rawSink env) else s
  | .consume overlay env => if s.running || s.joining then s.consume decide overlay env else s

theorem overlaid_frameId (overlay : Option RgbaImage) (env : StageEnv) (final : Frame) :
    (overlaid overlay env final).frameId = final.frameId := by
  cases overlay with
  | none => rfl
  | some overlay =>
    rw [overlaid]
    cases composited : compositeOverlay env.mem env.buf final overlay with
    | none => rfl
    | some out => exact compositeOverlay_frameId composited

variable {decide : List (Option FrameBundle) → Option CameraChoice}

/-- Of the cameras the consumer touches the slots. -/
theorem consume_cameras (overlay : Option RgbaImage) (env : StageEnv) (s : PipelineOrchestrator) :
    (s.consume decide overlay env).cameras = s.cameras.map fun c => { c with slot := c.slot.take.1 } := by
  unfold consume
  repeat' split
  all_goals rfl

theorem consume_running (overlay : Option RgbaImage) (env : StageEnv) (s : PipelineOrchestrator) :
    (s.consume decide overlay env).running = s.running := by
  unfold consume
  repeat' split
  all_goals rfl

end PipelineOrchestrator

end SstCam
