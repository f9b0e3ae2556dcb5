import Mathlib.Data.List.AList
import SstCam.Domain.Frame

/-!
# StreamingService

The RTSP preview server and the active platform streamers, keyed by stream id, with the
published names beside them (`app/streaming/services/streaming_service`). Both kinds of
streamer are ports; `AppStreamPort` and `StreamerPort` are the ports by their contracts.
-/

namespace SstCam
set_option autoImplicit false

structure AppStreamConfig where
  address : String := "0.0.0.0"
  mountPoint : String := "/preview"
  port : Nat := 8554
  width : Nat := 854
  height : Nat := 480
  framerate : Nat := 30
  bitrateKbps : Nat := 1500
  deriving DecidableEq, Repr

inductive PlatformStreamType where
  | rtmp
  | rtmpS
  deriving DecidableEq, Repr

inductive PlatformStreamCodec where
  | h264
  | h265
  deriving DecidableEq, Repr

structure PlatformStreamConfig where
  streamId : Int := 0
  name : String := ""
  type : PlatformStreamType := .rtmp
  url : String := ""
  streamKey : String := ""
  codec : PlatformStreamCodec := .h264
  width : Int := 1920
  height : Int := 1080
  framerate : Int := 60
  bitrateKbps : Int := 4000
  deriving DecidableEq, Repr

/-- `IAppStreamServer`. `start` is told whether the server attaches to its address. -/
class IAppStreamServer (α : Type) where
  start : α → AppStreamConfig → Bool → α × Bool
  stop : α → α
  isRunning : α → Bool
  push : α → Frame → α

/-- `IPlatformStreamer`. `start` is told whether the media framework accepts the pipeline. -/
class IPlatformStreamer (γ : Type) where
  start : γ → PlatformStreamConfig → Bool → γ × Bool
  stop : γ → γ
  isRunning : γ → Bool
  push : γ → Frame → γ

structure ActivePlatformStream where
  streamId : Int := 0
  name : String := ""
  deriving DecidableEq, Repr

structure StreamingService (α γ : Type) where
  appStreamServer : α
  platformStreams : AList (fun _ : Int => γ) := ∅
  activeNames : AList (fun _ : Int => String) := ∅
  deriving DecidableEq

namespace StreamingService

variable {α γ : Type}

section
variable [IAppStreamServer α]

def startAppStream (config : AppStreamConfig) (attaches : Bool) (s : StreamingService α γ) :
    StreamingService α γ × Bool :=
  if IAppStreamServer.isRunning s.appStreamServer then (s, true)
  else
    ({ s with appStreamServer := (IAppStreamServer.start s.appStreamServer config attaches).1 },
      (IAppStreamServer.start s.appStreamServer config attaches).2)

def stopAppStream (s : StreamingService α γ) : StreamingService α γ × Bool :=
  if !IAppStreamServer.isRunning s.appStreamServer then (s, false)
  else ({ s with appStreamServer := IAppStreamServer.stop s.appStreamServer }, true)

def isAppStreamRunning (s : StreamingService α γ) : Bool :=
  IAppStreamServer.isRunning s.appStreamServer

end

/-- `made` is what the streamer factory returns for this call, `accepts` the streamer's outcome. -/
def startPlatformStream [IPlatformStreamer γ] (config : PlatformStreamConfig) (made : Option γ) (accepts : Bool)
    (s : StreamingService α γ) : StreamingService α γ × Bool :=
  if config.streamId ≤ 0 then (s, false)
  else if config.streamId ∈ s.platformStreams then (s, false)
  else
    match made with
    | none => (s, false)
    | some streamer =>
      if !(IPlatformStreamer.start streamer config accepts).2 then (s, false)
      else
        ({ s with
            activeNames := s.activeNames.insert config.streamId config.name
            platformStreams := s.platformStreams.insert config.streamId
              (IPlatformStreamer.start streamer config accepts).1 }, true)

/-- The streamer leaves the map under the lock and is then stopped and destroyed. -/
def stopPlatformStream (streamId : Int) (s : StreamingService α γ) : StreamingService α γ × Bool :=
  if streamId ∉ s.platformStreams then (s, false)
  else
    ({ s with
        platformStreams := s.platformStreams.erase streamId
        activeNames := s.activeNames.erase streamId }, true)

def listActivePlatformStreams (s : StreamingService α γ) : List ActivePlatformStream :=
  s.activeNames.entries.map fun e => { streamId := e.1, name := e.2 }

def push [IAppStreamServer α] [IPlatformStreamer γ] (frame : Frame) (s : StreamingService α γ) : StreamingService α γ :=
  { s with
    appStreamServer :=
      if IAppStreamServer.isRunning s.appStreamServer then IAppStreamServer.push s.appStreamServer frame
      else s.appStreamServer
    platformStreams := ⟨s.platformStreams.entries.map fun e =>
        ⟨e.1, if IPlatformStreamer.isRunning e.2 then IPlatformStreamer.push e.2 frame else e.2⟩,
      by
        have keys := s.platformStreams.nodupKeys
        rw [List.NodupKeys, List.keys] at keys ⊢
        rwa [List.map_map]⟩ }

/-- The preview leaves the platform streams alone. -/
@[simp] theorem startAppStream_platformStreams [IAppStreamServer α] (config : AppStreamConfig) (attaches : Bool)
    (s : StreamingService α γ) : (startAppStream config attaches s).1.platformStreams = s.platformStreams := by
  unfold startAppStream
  split <;> rfl

/-- Platform streams leave the preview alone. -/
@[simp] theorem startPlatformStream_appStreamServer [IPlatformStreamer γ] (config : PlatformStreamConfig)
    (made : Option γ) (accepts : Bool) (s : StreamingService α γ) :
    (startPlatformStream config made accepts s).1.appStreamServer = s.appStreamServer := by
  unfold startPlatformStream
  repeat' split
  all_goals rfl

@[simp] theorem stopPlatformStream_appStreamServer (streamId : Int) (s : StreamingService α γ) :
    (stopPlatformStream streamId s).1.appStreamServer = s.appStreamServer := by
  unfold stopPlatformStream
  split <;> rfl

theorem foldl_stop_appStreamServer (ids : List ActivePlatformStream) (s : StreamingService α γ) :
    (ids.foldl (fun s active => (stopPlatformStream active.streamId s).1) s).appStreamServer = s.appStreamServer := by
  induction ids generalizing s with
  | nil => rfl
  | cons id ids ih => rw [List.foldl_cons, ih, stopPlatformStream_appStreamServer]

/-- The published ids are the ids of the active streamers. -/
def InStep (s : StreamingService α γ) : Prop :=
  ∀ id, id ∈ s.activeNames ↔ id ∈ s.platformStreams

theorem stopAppStream_inStep [IAppStreamServer α] {s : StreamingService α γ} (h : s.InStep) :
    s.stopAppStream.1.InStep := by
  unfold stopAppStream
  split <;> exact h

theorem startAppStream_inStep [IAppStreamServer α] (config : AppStreamConfig) (attaches : Bool)
    {s : StreamingService α γ} (h : s.InStep) : (startAppStream config attaches s).1.InStep := by
  unfold startAppStream
  split <;> exact h

theorem startPlatformStream_inStep [IPlatformStreamer γ] (config : PlatformStreamConfig) (made : Option γ)
    (accepts : Bool) {s : StreamingService α γ} (h : s.InStep) :
    (startPlatformStream config made accepts s).1.InStep := by
  unfold startPlatformStream
  split
  · exact h
  · split
    · exact h
    · split
      · exact h
      · split
        · exact h
        · intro id
          simp [h id]

theorem stopPlatformStream_inStep (streamId : Int) {s : StreamingService α γ} (h : s.InStep) :
    (stopPlatformStream streamId s).1.InStep := by
  unfold stopPlatformStream
  split
  · exact h
  · intro id
    simp [h id]

theorem mem_stopPlatformStream (streamId id : Int) (s : StreamingService α γ) :
    id ∈ (stopPlatformStream streamId s).1.platformStreams ↔ id ≠ streamId ∧ id ∈ s.platformStreams := by
  unfold stopPlatformStream
  split
  case isTrue absent => exact ⟨fun h => ⟨fun eq => absent (eq ▸ h), h⟩, And.right⟩
  case isFalse => simp

/-- Stopping a list of streams leaves the others. -/
theorem foldl_stop_mem (actives : List ActivePlatformStream) (id : Int) {s : StreamingService α γ} (h : s.InStep) :
    let after := actives.foldl (fun s active => (stopPlatformStream active.streamId s).1) s
    after.InStep ∧ (id ∈ after.platformStreams ↔ (∀ a ∈ actives, id ≠ a.streamId) ∧ id ∈ s.platformStreams) := by
  induction actives generalizing s with
  | nil => simpa using h
  | cons a actives ih =>
    obtain ⟨inStep, mem⟩ := ih (stopPlatformStream_inStep a.streamId h)
    refine ⟨inStep, mem.trans ?_⟩
    rw [mem_stopPlatformStream, List.forall_mem_cons]
    tauto

theorem mem_listActive (s : StreamingService α γ) (id : Int) :
    (∃ a ∈ s.listActivePlatformStreams, id = a.streamId) ↔ id ∈ s.activeNames := by
  simp [listActivePlatformStreams, AList.mem_keys, AList.keys, List.keys, eq_comm]

/-- A map without keys is empty. -/
theorem alist_eq_empty {β : Type} {m : AList (fun _ : Int => β)} (h : ∀ id, id ∉ m) : m = ∅ :=
  AList.ext (List.map_eq_nil_iff.1 (List.eq_nil_iff_forall_not_mem.2 h))

/-- Without streams a stop stops nothing. -/
theorem stopPlatformStream_empty (streamId : Int) {s : StreamingService α γ} (h : s.platformStreams = ∅) :
    (stopPlatformStream streamId s).1.platformStreams = ∅ :=
  alist_eq_empty fun id mem => absurd ((mem_stopPlatformStream streamId id s).1 mem).2 (by simp [h])

/-- Stopping every published stream leaves none. -/
theorem stopAll_empty {s : StreamingService α γ} (h : s.InStep) :
    let after := s.listActivePlatformStreams.foldl (fun s active => (stopPlatformStream active.streamId s).1) s
    after.platformStreams = ∅ ∧ after.activeNames = ∅ := by
  have none (id : Int) := (foldl_stop_mem s.listActivePlatformStreams id h).2
  have inStep := (foldl_stop_mem s.listActivePlatformStreams 0 h).1
  have gone : ∀ id, id ∉ (s.listActivePlatformStreams.foldl
      (fun s active => (stopPlatformStream active.streamId s).1) s).platformStreams := by
    intro id mem
    obtain ⟨others, active⟩ := (none id).1 mem
    obtain ⟨a, ha, eq⟩ := (mem_listActive s id).2 ((h id).2 active)
    exact others a ha eq
  exact ⟨alist_eq_empty gone, alist_eq_empty fun id mem => gone id ((inStep id).1 mem)⟩

section
variable [IAppStreamServer α] [IPlatformStreamer γ]

theorem mem_push (frame : Frame) (s : StreamingService α γ) (id : Int) :
    id ∈ (s.push frame).platformStreams ↔ id ∈ s.platformStreams := by
  simp [push, AList.mem_keys, AList.keys, List.keys]

theorem push_empty (frame : Frame) {s : StreamingService α γ} (h : s.platformStreams = ∅) :
    (s.push frame).platformStreams = ∅ :=
  alist_eq_empty fun id mem => AList.notMem_empty id (h ▸ (mem_push frame s id).1 mem)

theorem push_inStep (frame : Frame) {s : StreamingService α γ} (h : s.InStep) : (s.push frame).InStep :=
  fun id => (h id).trans (mem_push frame s id).symm

end

end StreamingService

/-- A preview server by its contract: it serves one configuration from start to stop. -/
structure AppStreamPort where
  serving : Option AppStreamConfig := none
  deriving DecidableEq, Repr

instance : IAppStreamServer AppStreamPort where
  start a config attaches :=
    if a.serving.isSome then (a, true) else if attaches then ({ serving := some config }, true) else (a, false)
  stop _ := {}
  isRunning a := a.serving.isSome
  push a _ := a

theorem StreamingService.stopAppStream_serving {γ : Type} (s : StreamingService AppStreamPort γ) :
    s.stopAppStream.1.appStreamServer.serving = none := by
  unfold stopAppStream
  split
  case isTrue h => simpa [IAppStreamServer.isRunning] using h
  case isFalse => rfl

theorem StreamingService.push_serving {γ : Type} [IPlatformStreamer γ] (frame : Frame)
    (s : StreamingService AppStreamPort γ) : (s.push frame).appStreamServer = s.appStreamServer :=
  ite_self _

/-- A platform streamer by its contract: it pushes to one destination from start to stop. -/
structure StreamerPort where
  streaming : Option PlatformStreamConfig := none
  deriving DecidableEq, Repr

instance : IPlatformStreamer StreamerPort where
  start g config accepts :=
    if g.streaming.isSome then (g, true) else if accepts then ({ streaming := some config }, true) else (g, false)
  stop _ := {}
  isRunning g := g.streaming.isSome
  push g _ := g

end SstCam
