/-!
# Camera frames

A frame as the domain passes it around (`domain/capture/models/frame.hpp`): planes point into
memory that the frame's owner keeps alive. A pointer is an address, `none` the null pointer.
-/

namespace SstCam
set_option autoImplicit false

inductive PixelFormat where
  | nv12
  | i420
  | yuyv
  | rgb8
  | bgr8
  | rgba8
  | bgra8
  | gray8
  deriving DecidableEq, Repr

inductive MemoryType where
  | cpu
  | gpu
  | nvmm
  deriving DecidableEq, Repr

structure FramePlane where
  stride : Nat := 0
  data : Option Nat := none
  size : Nat := 0
  deriving DecidableEq, Repr

structure FrameGeometry where
  width : Nat := 0
  height : Nat := 0
  deriving DecidableEq, Repr

structure Frame where
  frameId : Nat := 0
  format : PixelFormat := .nv12
  memory : MemoryType := .cpu
  geometry : FrameGeometry := {}
  planes : List FramePlane := []
  capturedAt : Nat := 0
  owner : Option Nat := none
  deriving DecidableEq, Repr

end SstCam
