import SstCam.Lib.Shared
import SstCam.Pipeline.PipelineOrchestrator

/-!
# The buffers of the capture

`GStreamerAdapter` with what it owns: references to the objects of the pipeline, to samples and to their
buffers, the mappings of the buffers, and the counted pointers of the frames, whose deleter unmaps the
buffer. A camera is the adapter with the loop of its producer, statement by statement where ownership moves.
-/

namespace SstCam
set_option autoImplicit false

inductive CaptureResource where
  | pipeline
  | bus
  | sink
  | error
  /-- A reference to a buffer. -/
  | buffer (b : Nat)
  | mapping (b : Nat)
  deriving DecidableEq, Repr

inductive CaptureOwner where
  | sample (id : Nat) (buffer : Option Nat)
  /-- The owner of a frame and of its copies. -/
  | frame (frameId buffer : Nat)
  deriving DecidableEq, Repr

/-- A sample refers to its buffer. The deleter of a frame unmaps the buffer, then gives it back. -/
def CaptureOwner.owns : CaptureOwner → List CaptureResource
  | sample _ buffer => buffer.toList.map .buffer
  | frame _ buffer => [.mapping buffer, .buffer buffer]

abbrev CaptureHeap := Shared CaptureOwner CaptureResource

/-- A sample and the buffer it refers to, of which its map is. -/
structure PooledSample where
  sample : GstSample
  buffer : Option Nat
  backed : sample.map.isSome → buffer.isSome
  deriving DecidableEq

structure QueuedSample extends PooledSample where
  id : Nat
  deriving DecidableEq

def QueuedSample.owner (s : QueuedSample) : CaptureOwner := .sample s.id s.buffer

structure MappedFrame where
  frame : Frame
  buffer : Nat
  deriving DecidableEq, Repr

def MappedFrame.owner (f : MappedFrame) : CaptureOwner := .frame f.frame.frameId f.buffer

/-- The pointers that are not null. -/
structure GstPointers where
  pipeline : Bool := false
  bus : Bool := false
  sink : Bool := false
  err : Bool := false
  deriving DecidableEq, Repr

/-- `CleanupPipeline`. -/
def GstPointers.cleanup (p : GstPointers) (heap : CaptureHeap) : CaptureHeap :=
  let heap := if p.sink then heap.give .sink else heap
  let heap := if p.bus then heap.give .bus else heap
  let heap := if p.pipeline then heap.give .pipeline else heap
  if p.err then heap.give .error else heap

/-- How far a start comes. -/
inductive Launch where
  /-- No pipeline is written for the device model. -/
  | unsupported
  /-- There may be an element with the error. -/
  | parseError (element : Bool)
  | noPipeline
  | noBus
  | noSink
  | notPlaying
  | playing (prime : Option PooledSample)
  deriving DecidableEq

def Launch.comesUp : Launch → Bool
  | playing _ => true
  | _ => false

/-- The sample that the start waits for. -/
def Launch.first : Launch → Option GstSample
  | playing prime => prime.map (·.sample)
  | _ => none

structure CaptureBuffers where
  pointers : GstPointers := {}
  /-- The appsink's samples, the oldest first. -/
  queue : List QueuedSample := []
  /-- An error or the end of the stream waits on the bus. -/
  failed : Bool := false
  isRunning : Bool := false
  frameCounter : Nat := 0
  lastFrame : Option MappedFrame := none
  /-- The samples GStreamer has made so far. -/
  samples : Nat := 0
  heap : CaptureHeap := {}

namespace CaptureBuffers

def onHeap (f : CaptureHeap → CaptureHeap) (a : CaptureBuffers) : CaptureBuffers := { a with heap := f a.heap }

/-- A copy of an owner comes or goes. -/
def copy (k : CaptureOwner) (a : CaptureBuffers) : CaptureBuffers := a.onHeap (·.copy k)

def drop (k : CaptureOwner) (a : CaptureBuffers) : CaptureBuffers := a.onHeap (·.drop CaptureOwner.owns k)

def dropAll (ks : List CaptureOwner) (a : CaptureBuffers) : CaptureBuffers :=
  a.onHeap fun heap => ks.foldl (fun heap k => heap.drop CaptureOwner.owns k) heap

/-- The owner of the last frame, if there is one. -/
def lastOwner (a : CaptureBuffers) : List CaptureOwner := a.lastFrame.toList.map (·.owner)

/-- GStreamer makes a sample. -/
def newSample (s : PooledSample) (a : CaptureBuffers) : CaptureBuffers × QueuedSample :=
  let queued : QueuedSample := { s with id := a.samples }
  let heap := s.buffer.toList.foldl (fun heap b => heap.take (.buffer b)) a.heap
  ({ a with samples := a.samples + 1, heap := heap.copy queued.owner }, queued)

/-- Unmaps the buffer again, and gives it back. -/
def unmap (b : Nat) (a : CaptureBuffers) : CaptureBuffers := a.onHeap fun heap => (heap.give (.mapping b)).give (.buffer b)

def createFrameFromSample (now : Nat) (s : QueuedSample) (a : CaptureBuffers) : CaptureBuffers × Option MappedFrame :=
  match s.sample.info, s.buffer with
  | some info, some b =>
    let a := a.onHeap (·.take (.buffer b))
    match s.sample.map with
    | none => (a.onHeap (·.give (.buffer b)), none)
    | some map =>
      let a := a.onHeap (·.take (.mapping b))
      match map.framePlanes info with
      | none => (a.unmap b, none)
      | some planes =>
        let frameId := a.frameCounter
        let a := { a with frameCounter := a.frameCounter + 1 }
        match map.frame info planes frameId now with
        | none => (a.unmap b, none)
        | some frame =>
          let fresh : MappedFrame := { frame, buffer := b }
          (a.copy fresh.owner, some fresh)
  | _, _ => (a, none)

/-- `last_frame_ = *fresh`. -/
def keepLast (fresh : MappedFrame) (a : CaptureBuffers) : CaptureBuffers :=
  { (a.copy fresh.owner).dropAll a.lastOwner with lastFrame := some fresh }

/-- A copy of `last_frame_`. -/
def copyLast (a : CaptureBuffers) : CaptureBuffers × Option MappedFrame :=
  match a.lastFrame with
  | none => (a, none)
  | some last => (a.copy last.owner, some last)

/-- Without a pipeline there are no samples. -/
def stop (a : CaptureBuffers) : CaptureBuffers :=
  let a := { a.dropAll (a.queue.map (·.owner)) with queue := [], failed := false }
  let a := { a.onHeap a.pointers.cleanup with pointers := {} }
  { a.dropAll a.lastOwner with lastFrame := none, isRunning := false }

/-- Converts the sample that a start waits for. -/
def prime (now : Nat) (s : PooledSample) (a : CaptureBuffers) : CaptureBuffers :=
  let (a, owner) := a.newSample s
  match a.createFrameFromSample now owner with
  | (a, none) => a.drop owner.owner
  | (a, some captured) => ((a.keepLast captured).drop captured.owner).drop owner.owner

def start (launch : Launch) (now : Nat) (a : CaptureBuffers) : CaptureBuffers :=
  if a.isRunning then a
  else
    match launch with
    | .unsupported => a
    | .parseError element =>
      let heap := a.heap.take .error
      let heap := if element then heap.take .pipeline else heap
      a.onHeap fun _ => GstPointers.cleanup { pipeline := element, err := true } heap
    | .noPipeline => a
    | .noBus => a.onHeap fun heap => GstPointers.cleanup { pipeline := true } (heap.take .pipeline)
    | .noSink =>
      a.onHeap fun heap => GstPointers.cleanup { pipeline := true, bus := true } ((heap.take .pipeline).take .bus)
    | .notPlaying =>
      a.onHeap fun heap =>
        GstPointers.cleanup { pipeline := true, bus := true, sink := true } (((heap.take .pipeline).take .bus).take .sink)
    | .playing first =>
      let a := a.onHeap fun heap => ((heap.take .pipeline).take .bus).take .sink
      let a := { a with pointers := { pipeline := true, bus := true, sink := true }, isRunning := true }
      match first with
      | none => a
      | some s => a.prime now s

/-- The loop that pulls the samples: all but the last are given back. -/
def drain : List QueuedSample → Option QueuedSample → CaptureBuffers → CaptureBuffers × Option QueuedSample
  | [], last, a => (a, last)
  | s :: queue, none, a => drain queue (some s) a
  | s :: queue, some last, a => drain queue (some s) (a.drop last.owner)

def capture (now : Nat) (a : CaptureBuffers) : CaptureBuffers × Option MappedFrame :=
  if !a.isRunning || !a.pointers.pipeline || !a.pointers.sink || !a.pointers.bus then (a, none)
  else if a.failed then (a.stop, none)
  else
    match drain a.queue none { a with queue := [] } with
    | (a, none) => a.copyLast
    | (a, some sample) =>
      match a.createFrameFromSample now sample with
      | (a, none) =>
        let (a, last) := a.copyLast
        (a.drop sample.owner, last)
      | (a, some fresh) => ((a.keepLast fresh).drop sample.owner, some fresh)

/-- An iteration of the producer, and the bundle it hands on. -/
def produce (preprocessor : PreprocessConfig) (env : StageEnv) (a : CaptureBuffers) : CaptureBuffers × Option FrameBundle :=
  match a.capture env.now with
  | (a, none) => (a, none)
  | (a, some raw) =>
    match OpenCvPreprocessor.process preprocessor env.mem env.buf raw.frame with
    | .error _ => (a.drop raw.owner, none)
    | .ok none => (a.drop raw.owner, none)
    | .ok (some bundle) =>
      -- the AI frame is made of the raw frame's pixels
      let a := a.onHeap (·.use (.mapping raw.buffer))
      let a := a.copy raw.owner
      let a := a.onHeap (·.use (.mapping raw.buffer))
      let materialized := { bundle with sourceFrame := materializeFrame env.frameBuf bundle.sourceFrame }
      ((a.drop raw.owner).drop raw.owner, some materialized)

/-- An appsink that is full drops the oldest sample. -/
def evict (a : CaptureBuffers) : CaptureBuffers :=
  match a.queue with
  | [] => a
  | oldest :: queue => if a.queue.length < maxBuffers then a else { a.drop oldest.owner with queue }

/-- A sample comes to the appsink. -/
def sample (s : PooledSample) (a : CaptureBuffers) : CaptureBuffers :=
  if !a.pointers.pipeline then a
  else
    let (a, queued) := a.evict.newSample s
    { a with queue := a.queue ++ [queued] }

def fault (a : CaptureBuffers) : CaptureBuffers := { a with failed := a.failed || a.pointers.pipeline }

end CaptureBuffers

end SstCam
