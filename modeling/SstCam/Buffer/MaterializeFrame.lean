import SstCam.Domain.Frame

/-!
# MaterializeFrame

Copies the planes of a frame into one fresh buffer (`domain/buffer/services/materialize-frame.cpp`).
Memory is a byte for each address. The planes lie one behind the other in the buffer, so of a
materialized frame each plane ends where the next begins.
-/

namespace SstCam
set_option autoImplicit false

abbrev Memory := Nat → UInt8

namespace Memory

/-- The bytes from an address on. -/
def read (mem : Memory) (address count : Nat) : List UInt8 := (List.range count).map fun i => mem (address + i)

/-- Memory with some bytes put at an address. -/
def write (mem : Memory) (address : Nat) (bytes : List UInt8) : Memory := fun a =>
  if address ≤ a ∧ a < address + bytes.length then bytes.getD (a - address) 0 else mem a

@[simp] theorem length_read (mem : Memory) (address count : Nat) : (mem.read address count).length = count := by
  simp [read]

theorem getElem?_read (mem : Memory) (address : Nat) {i count : Nat} (h : i < count) :
    (mem.read address count)[i]? = some (mem (address + i)) := by
  simp [read, h]

theorem read_add (mem : Memory) (address m n : Nat) :
    mem.read address (m + n) = mem.read address m ++ mem.read (address + m) n := by
  simp only [read, List.range_add, List.map_append, List.map_map, Function.comp_def, Nat.add_assoc]

/-- What was written reads back. -/
theorem read_write (mem : Memory) (address : Nat) (bytes : List UInt8) :
    (mem.write address bytes).read address bytes.length = bytes := by
  apply List.ext_getElem
  · simp
  · intro i hi hi'
    simp [read, write, hi']

end Memory

/-- The bytes a plane leaves in a buffer of zeros; a null pointer leaves them. -/
def FramePlane.bytes (mem : Memory) (plane : FramePlane) : List UInt8 :=
  match plane.data with
  | none => List.replicate plane.size 0
  | some address => mem.read address plane.size

@[simp] theorem FramePlane.length_bytes (mem : Memory) (plane : FramePlane) : (plane.bytes mem).length = plane.size := by
  unfold bytes
  split <;> simp

/-- The planes, one behind the other from an address on. -/
def materializePlanes (address : Nat) : List FramePlane → List FramePlane
  | [] => []
  | plane :: planes =>
    { stride := plane.stride, data := some address, size := plane.size } :: materializePlanes (address + plane.size) planes

/-- `buf` is the address of the buffer that is allocated, and stands for the owner. -/
def materializeFrame (buf : Nat) (src : Frame) : Frame :=
  { src with planes := materializePlanes buf src.planes, owner := some buf }

/-- Memory once the planes are copied to the buffer. -/
def materializedMemory (mem : Memory) (buf : Nat) (src : Frame) : Memory :=
  mem.write buf (src.planes.flatMap (·.bytes mem))

theorem materializePlanes_bytes {mem mem' : Memory} {address : Nat} {planes : List FramePlane}
    (copied : mem'.read address (planes.flatMap (·.bytes mem)).length = planes.flatMap (·.bytes mem)) :
    (materializePlanes address planes).map (·.bytes mem') = planes.map (·.bytes mem) := by
  induction planes generalizing address with
  | nil => rfl
  | cons plane planes ih =>
    rw [List.flatMap_cons, List.length_append, FramePlane.length_bytes, Memory.read_add] at copied
    obtain ⟨here, rest⟩ := List.append_inj copied (by simp)
    rw [materializePlanes, List.map_cons, List.map_cons, ih rest]
    exact congrArg (· :: _) here

/-- Every plane of the copy holds the bytes of its original. -/
theorem materializeFrame_bytes (mem : Memory) (buf : Nat) (src : Frame) :
    (materializeFrame buf src).planes.map (·.bytes (materializedMemory mem buf src)) = src.planes.map (·.bytes mem) :=
  materializePlanes_bytes (Memory.read_write mem buf _)

end SstCam
