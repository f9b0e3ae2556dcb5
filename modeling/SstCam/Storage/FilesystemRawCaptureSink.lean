import SstCam.Buffer.DropOldestRing
import SstCam.Buffer.MaterializeFrame
import SstCam.Storage.RawCaptureNaming

/-!
# FilesystemRawCaptureSink

One file for each camera, each with a ring and a writer thread
(`adapters/storage/raw_capture/filesystem-raw-capture-sink.cpp`). The machine takes one step of one
thread at a time: a step is what a thread does under a lock, one write, or one look at a flag.
`PushCamera` holds the sink's mutex throughout, and gives up where another holds it; `Stop` moves the
writers away under the mutex and does the rest without it.
-/

namespace SstCam
set_option autoImplicit false

/-- A frame, with the memory that its owner keeps alive. -/
structure HeldFrame where
  frame : Frame
  mem : Memory

/-- What the sink writes of a frame: its planes that are there, one behind the other. -/
def HeldFrame.bytes (held : HeldFrame) : List UInt8 :=
  held.frame.planes.flatMap fun plane =>
    match plane.data with
    | none => []
    | some address => if plane.size > 0 then held.mem.read address plane.size else []

/-- The files of the video directory by their names. -/
abbrev Disk := List Char → Option (List UInt8)

def Disk.set (disk : Disk) (name : List Char) (content : List UInt8) : Disk := fun other =>
  if other = name then some content else disk other

def Disk.append (disk : Disk) (name : List Char) (bytes : List UInt8) : Disk := fun other =>
  if other = name then (disk name).map (· ++ bytes) else disk other

/-- A `std::ofstream`: one that failed writes nothing more. -/
structure OutFile where
  name : List Char
  isOpen : Bool := true
  failed : Bool := false
  deriving DecidableEq, Repr

/-- `room` is what the disk has left, where that is not enough. -/
def writeFramePlanes (room : Option Nat) (held : HeldFrame) (disk : Disk) (file : OutFile) : Disk × OutFile :=
  if held.bytes = [] then (disk, file)
  else if file.failed || !file.isOpen then (disk, { file with failed := true })
  else
    match room with
    | none => (disk.append file.name held.bytes, file)
    | some room =>
      if held.bytes.length ≤ room then (disk.append file.name held.bytes, file)
      else (disk.append file.name (held.bytes.take room), { file with failed := true })

def kQueueCapacity : Nat := 8

theorem kQueueCapacity_pos : 0 < kQueueCapacity := Nat.succ_pos 7

/-- Where a writer thread is: in its loop, in the drain behind it, or at its end. -/
inductive WriterPc where
  | checking
  | popping
  | writing (held : HeldFrame)
  | draining
  | drainWriting (held : HeldFrame)
  | exited

structure CameraWriter where
  file : OutFile
  ring : DropOldestRing HeldFrame := { capacity := kQueueCapacity, capacity_pos := kQueueCapacity_pos }
  stopping : Bool := false
  pc : WriterPc := .checking

namespace CameraWriter

/-- A step of `WriterLoop`. -/
def writerLoop (room : Option Nat) (disk : Disk) (w : CameraWriter) : Disk × CameraWriter :=
  match w.pc with
  | .checking => (disk, { w with pc := if w.stopping then .draining else .popping })
  | .popping =>
    match w.ring.pop with
    | (ring, none) => (disk, { w with ring, pc := .checking })
    | (ring, some held) => (disk, { w with ring, pc := .writing held })
  | .writing held =>
    ((writeFramePlanes room held disk w.file).1,
      { w with file := (writeFramePlanes room held disk w.file).2, pc := .checking })
  | .draining =>
    match w.ring.tryPop with
    | (ring, none) => (disk, { w with ring, pc := .exited })
    | (ring, some held) => (disk, { w with ring, pc := .drainWriting held })
  | .drainWriting held =>
    ((writeFramePlanes room held disk w.file).1,
      { w with file := (writeFramePlanes room held disk w.file).2, pc := .draining })
  | .exited => (disk, w)

def exited (w : CameraWriter) : Bool :=
  match w.pc with
  | .exited => true
  | _ => false

end CameraWriter

structure FilesystemRawCaptureSink where
  cameraCount : Nat
  capturing : Bool := false
  captureGroupId : List Char := []
  writers : List CameraWriter := []

namespace FilesystemRawCaptureSink

/-- Opens the files of the cameras in turn, and empties each. -/
def openWriters (captureGroupId : List Char) (opens : Nat → Bool) (disk : Disk) :
    List Nat → Disk × Option (List CameraWriter)
  | [] => (disk, some [])
  | i :: is =>
    let name := RawCaptureNaming.fileName { captureGroupId, cameraIndex := i }
    if !opens i then (disk, none)
    else
      match openWriters captureGroupId opens (disk.set name []) is with
      | (disk, none) => (disk, none)
      | (disk, some writers) => (disk, some ({ file := { name } } :: writers))

/-- `hasDir` is whether the video directory is there or can be made, `opens` whether a camera's file
can be opened. -/
def start (captureGroupId : List Char) (hasDir : Bool) (opens : Nat → Bool) (disk : Disk)
    (sink : FilesystemRawCaptureSink) : Disk × FilesystemRawCaptureSink × Bool :=
  if sink.capturing then (disk, sink, false)
  else if captureGroupId = [] then (disk, sink, false)
  else if !hasDir then (disk, sink, false)
  else
    match openWriters captureGroupId opens disk (List.range sink.cameraCount) with
    | (disk, none) => (disk, sink, false)
    | (disk, some writers) => (disk, { sink with writers, captureGroupId, capturing := true }, true)

/-- `locked` is whether another holds the mutex. -/
def pushCamera (cameraIndex : Nat) (held : HeldFrame) (locked : Bool) (sink : FilesystemRawCaptureSink) :
    FilesystemRawCaptureSink :=
  if locked || !sink.capturing || decide (sink.writers.length ≤ cameraIndex) then sink
  else { sink with writers := sink.writers.modify cameraIndex fun w => { w with ring := (w.ring.push held).1 } }

end FilesystemRawCaptureSink

/-- Where `Stop` is, behind its section under the mutex: at which camera, and at what there. -/
inductive StopPc where
  | notCalled
  | marking (camera : Nat)
  | closing (camera : Nat)
  | joining (camera : Nat)
  | draining (camera : Nat)
  | writing (camera : Nat) (held : HeldFrame)
  | closingFile (camera : Nat)
  | returned

/-- A sink at work, with the disk, the writers that `Stop` has taken away, and where it is. -/
structure RawCapture where
  sink : FilesystemRawCaptureSink
  disk : Disk
  draining : List CameraWriter := []
  stopPc : StopPc := .notCalled

inductive RawCaptureEvent where
  | push (camera : Nat) (held : HeldFrame) (locked : Bool)
  | writer (camera : Nat) (room : Option Nat)
  | stop
  | stopper (room : Option Nat)

namespace RawCapture

/-- The writers: all with the sink, or all taken away. -/
def writers (s : RawCapture) : List CameraWriter := s.sink.writers ++ s.draining

/-- Changes one writer, wherever it is. -/
def atWriter (camera : Nat) (f : CameraWriter → CameraWriter) (s : RawCapture) : RawCapture :=
  { s with
    sink := { s.sink with writers := s.sink.writers.modify camera f }
    draining := s.draining.modify camera f }

/-- A step of a writer thread. -/
def writer (camera : Nat) (room : Option Nat) (s : RawCapture) : RawCapture :=
  match s.writers[camera]? with
  | none => s
  | some w =>
    let (disk, w) := w.writerLoop room s.disk
    { s.atWriter camera (fun _ => w) with disk }

/-- `Stop` up to where it gives the mutex back. -/
def stop (s : RawCapture) : RawCapture :=
  if !s.sink.capturing then s
  else
    { s with
      sink := { s.sink with capturing := false, writers := [], captureGroupId := [] }
      draining := s.sink.writers
      stopPc := .marking 0 }

/-- A step of `Stop` from there on: each writer is stopped, joined, drained and closed in turn. -/
def stopper (room : Option Nat) (s : RawCapture) : RawCapture :=
  match s.stopPc with
  | .notCalled => s
  | .marking camera =>
    if s.draining.length ≤ camera then { s with stopPc := .returned }
    else { s.atWriter camera (fun w => { w with stopping := true }) with stopPc := .closing camera }
  | .closing camera => { s.atWriter camera (fun w => { w with ring := w.ring.close }) with stopPc := .joining camera }
  | .joining camera =>
    match s.draining[camera]? with
    | none => s
    | some w => if w.exited then { s with stopPc := .draining camera } else s
  | .draining camera =>
    match s.draining[camera]? with
    | none => s
    | some w =>
      match w.ring.tryPop with
      | (ring, none) => { s.atWriter camera (fun w => { w with ring }) with stopPc := .closingFile camera }
      | (ring, some held) => { s.atWriter camera (fun w => { w with ring }) with stopPc := .writing camera held }
  | .writing camera held =>
    match s.draining[camera]? with
    | none => s
    | some w =>
      let (disk, file) := writeFramePlanes room held s.disk w.file
      { s.atWriter camera (fun w => { w with file }) with disk, stopPc := .draining camera }
  | .closingFile camera =>
    { s.atWriter camera (fun w => { w with file := { w.file with isOpen := false } }) with stopPc := .marking (camera + 1) }
  | .returned => s

def step (s : RawCapture) : RawCaptureEvent → RawCapture
  | .push camera held locked => { s with sink := s.sink.pushCamera camera held locked }
  | .writer camera room => s.writer camera room
  | .stop => s.stop
  | .stopper room => s.stopper room

end RawCapture

end SstCam
