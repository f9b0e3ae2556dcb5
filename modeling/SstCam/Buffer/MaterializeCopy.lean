import Mathlib.Algebra.BigOperators.Group.List.Basic
import Mathlib.Algebra.GroupWithZero.Nat
import Mathlib.Data.List.GetD
import SstCam.Buffer.MaterializeFrame

/-!
# The copy of a frame, plane by plane

`MaterializeFrame` as it runs: the sizes are added up, a buffer of that many zeros is allocated, and
each plane is copied behind the one before, with `size_t` sums that wrap. A vector of bytes has less than
2^63 of them. As long as the sizes add up to less this is `materializeFrame` and its memory
(`copyFrame_eq`); there is a faithful copy exactly then (`faithful_iff`).
-/

namespace SstCam
set_option autoImplicit false

/-- The copy: the frame, memory, and the size of the buffer the frame owns. -/
structure MaterializedFrame where
  frame : Frame
  memory : Memory
  size : Nat

/-- The sum is a `size_t`. -/
def totalSize (planes : List FramePlane) : Nat := planes.foldl (fun total plane => (total + plane.size) % 2 ^ 64) 0

/-- The loop over the planes, at an offset into the buffer. -/
def copyPlanes (buf : Nat) (mem : Memory) (offset : Nat) : List FramePlane → Memory × List FramePlane
  | [] => (mem, [])
  | plane :: planes =>
    let copied :=
      match plane.data with
      | some data => if 0 < plane.size then mem.write (buf + offset) (mem.read data plane.size) else mem
      | none => mem
    let rest := copyPlanes buf copied ((offset + plane.size) % 2 ^ 64) planes
    (rest.1, { stride := plane.stride, data := some (buf + offset), size := plane.size } :: rest.2)

/-- `max_size` of a `std::vector` of bytes: beyond it the constructor throws `length_error`. -/
def kVectorMaxSize : Nat := 2 ^ 63 - 1

/-- `buf` is the address of the buffer, whose bytes are zero at first; nothing where it cannot be made. -/
def copyFrame (mem : Memory) (buf : Nat) (src : Frame) : Option MaterializedFrame :=
  let total := totalSize src.planes
  if kVectorMaxSize < total then none
  else
    let copied := copyPlanes buf (mem.write buf (List.replicate total 0)) 0 src.planes
    some
      { frame := { src with planes := copied.2, owner := some buf }
        memory := copied.1
        size := total }

/-- The planes lie one behind the other from an address to another. -/
def Consecutive (first last : Nat) : List FramePlane → Prop
  | [] => first = last
  | plane :: planes => plane.data = some first ∧ Consecutive (first + plane.size) last planes

/-- A compact copy that the frame owns. -/
structure FaithfulCopy (mem : Memory) (buf : Nat) (src : Frame) (out : MaterializedFrame) : Prop where
  frameId : out.frame.frameId = src.frameId
  format : out.frame.format = src.format
  memory : out.frame.memory = src.memory
  geometry : out.frame.geometry = src.geometry
  capturedAt : out.frame.capturedAt = src.capturedAt
  sizes : out.frame.planes.map (·.size) = src.planes.map (·.size)
  strides : out.frame.planes.map (·.stride) = src.planes.map (·.stride)
  owner : out.frame.owner = some buf
  /-- The planes cut the buffer into consecutive slices and leave nothing of it. -/
  partition : Consecutive buf (buf + out.size) out.frame.planes
  /-- Each byte is that of the source, and zero where it has no data. -/
  bytes : out.frame.planes.map (·.bytes out.memory) = src.planes.map (·.bytes mem)
  /-- Outside the buffer nothing changes. -/
  frame : ∀ address, ¬ (buf ≤ address ∧ address < buf + out.size) → out.memory address = mem address

/-- What the allocator promises: the buffer shares no byte with the planes. -/
def Fresh (buf size : Nat) (planes : List FramePlane) : Prop :=
  ∀ plane ∈ planes, ∀ data, plane.data = some data → 0 < plane.size → data + plane.size ≤ buf ∨ buf + size ≤ data

/-! ## The sums -/

def sumSizes (planes : List FramePlane) : Nat := (planes.map (·.size)).sum

theorem totalSize_eq (planes : List FramePlane) : totalSize planes = sumSizes planes % 2 ^ 64 := by
  have run : ∀ total, planes.foldl (fun total plane => (total + plane.size) % 2 ^ 64) (total % 2 ^ 64) =
      (total + sumSizes planes) % 2 ^ 64 := by
    induction planes with
    | nil => intro total; rfl
    | cons plane planes ih =>
      intro total
      rw [List.foldl_cons, Nat.mod_add_mod, ih, sumSizes, sumSizes, List.map_cons, List.sum_cons, Nat.add_assoc]
  have whole := run 0
  rwa [Nat.zero_mod, Nat.zero_add] at whole

theorem consecutive_last {first last : Nat} {planes : List FramePlane} (h : Consecutive first last planes) :
    last = first + sumSizes planes := by
  induction planes generalizing first with
  | nil => exact h.symm
  | cons plane planes ih =>
    rw [ih h.2, sumSizes, sumSizes, List.map_cons, List.sum_cons, Nat.add_assoc]

theorem materializePlanes_consecutive (first : Nat) (planes : List FramePlane) :
    Consecutive first (first + sumSizes planes) (materializePlanes first planes) := by
  induction planes generalizing first with
  | nil => rfl
  | cons plane planes ih =>
    have rest := ih (first + plane.size)
    rw [sumSizes, List.map_cons, List.sum_cons, ← Nat.add_assoc]
    exact ⟨rfl, rest⟩

/-! ## The bytes -/

namespace Memory

variable {mem : Memory} {address : Nat} {before bytes behind old : List UInt8}

theorem write_apply (mem : Memory) (address : Nat) (bytes : List UInt8) (i : Nat) : mem.write address bytes i =
    if address ≤ i ∧ i < address + bytes.length then bytes.getD (i - address) 0 else mem i := rfl

/-- Bytes written in the middle of others. -/
theorem write_write (same : bytes.length = old.length) :
    (mem.write address (before ++ old ++ behind)).write (address + before.length) bytes =
      mem.write address (before ++ bytes ++ behind) := by
  funext i
  simp only [write_apply, List.length_append, same]
  by_cases inside : address + before.length ≤ i ∧ i < address + before.length + old.length
  · rw [if_pos inside, if_pos (by omega), List.getD_append _ _ _ _ (by rw [List.length_append]; omega),
      List.getD_append_right _ _ _ _ (by omega), Nat.sub_sub]
  rw [if_neg inside]
  by_cases within : address ≤ i ∧ i < address + (before.length + old.length + behind.length)
  · rw [if_pos within, if_pos within]
    by_cases front : i - address < before.length
    · rw [List.append_assoc, List.append_assoc, List.getD_append _ _ _ _ front, List.getD_append _ _ _ _ front]
    · have past : before.length + old.length ≤ i - address := by omega
      rw [List.getD_append_right _ _ _ _ (by rwa [List.length_append]),
        List.getD_append_right _ _ _ _ (by rwa [List.length_append, same]), List.length_append, List.length_append, same]
  · rw [if_neg within, if_neg within]

/-- What lies elsewhere still reads the same. -/
theorem read_write_of_disjoint {source count : Nat} (apart : source + count ≤ address ∨ address + bytes.length ≤ source) :
    (mem.write address bytes).read source count = mem.read source count := by
  unfold read
  apply List.map_congr_left
  intro i hi
  rw [List.mem_range] at hi
  rw [write_apply, if_neg (by omega)]

end Memory

theorem FramePlane.bytes_none {mem : Memory} {plane : FramePlane} (h : plane.data = none) :
    plane.bytes mem = List.replicate plane.size 0 := by
  rw [bytes, h]

theorem FramePlane.bytes_some {mem : Memory} {plane : FramePlane} {data : Nat} (h : plane.data = some data) :
    plane.bytes mem = mem.read data plane.size := by
  rw [bytes, h]

/-- One plane, once the planes before have been copied. -/
theorem copyPlane_eq {mem zeroed : Memory} {buf : Nat} {done behind : List UInt8} {plane : FramePlane}
    (start : zeroed = mem.write buf (done ++ List.replicate plane.size 0 ++ behind))
    (apart : ∀ data, plane.data = some data → 0 < plane.size →
      data + plane.size ≤ buf ∨ buf + (done.length + plane.size + behind.length) ≤ data) :
    (match plane.data with
      | some data => if 0 < plane.size then zeroed.write (buf + done.length) (zeroed.read data plane.size) else zeroed
      | none => zeroed) = mem.write buf (done ++ plane.bytes mem ++ behind) := by
  subst start
  cases held : plane.data with
  | none => rw [FramePlane.bytes_none held]
  | some data =>
    dsimp only
    rw [FramePlane.bytes_some held]
    split
    case isTrue pos =>
      have elsewhere := apart data held pos
      rw [Memory.read_write_of_disjoint (by simpa [Nat.add_assoc] using elsewhere), Memory.write_write (by simp)]
    case isFalse empty =>
      obtain none : plane.size = 0 := by omega
      rw [none]
      rfl

/-- The loop, once the planes before have been copied and the rest of the buffer is zero. -/
theorem copyPlanes_eq {mem : Memory} {buf : Nat} {done : List UInt8} {planes : List FramePlane}
    (fits : done.length + sumSizes planes < 2 ^ 64) (fresh : Fresh buf (done.length + sumSizes planes) planes) :
    copyPlanes buf (mem.write buf (done ++ List.replicate (sumSizes planes) 0)) done.length planes =
      (mem.write buf (done ++ planes.flatMap (·.bytes mem)), materializePlanes (buf + done.length) planes) := by
  induction planes generalizing done with
  | nil => rfl
  | cons plane planes ih =>
    have sizes : sumSizes (plane :: planes) = plane.size + sumSizes planes := by
      rw [sumSizes, List.map_cons, List.sum_cons, ← sumSizes]
    rw [sizes] at fits fresh ⊢
    have length : (done ++ plane.bytes mem).length = done.length + plane.size := by
      rw [List.length_append, FramePlane.length_bytes]
    have rest := @ih (done ++ plane.bytes mem) (by rw [length]; omega) (by
      rw [length, Nat.add_assoc]
      exact fun plane mem => fresh plane (List.mem_cons_of_mem _ mem))
    have start : mem.write buf (done ++ List.replicate (plane.size + sumSizes planes) 0) =
        mem.write buf (done ++ List.replicate plane.size 0 ++ List.replicate (sumSizes planes) 0) := by
      rw [List.replicate_add, List.append_assoc]
    have apart : ∀ data, plane.data = some data → 0 < plane.size → data + plane.size ≤ buf ∨
        buf + (done.length + plane.size + (List.replicate (sumSizes planes) (0 : UInt8)).length) ≤ data := by
      rw [List.length_replicate, Nat.add_assoc]
      exact fresh plane List.mem_cons_self
    rw [copyPlanes, copyPlane_eq start apart, Nat.mod_eq_of_lt (by omega), ← length, rest, List.flatMap_cons,
      List.append_assoc, length, materializePlanes, Nat.add_assoc]

/-- While the buffer can be made and the sizes do not wrap. -/
theorem copyFrame_eq {mem : Memory} {buf : Nat} {src : Frame} (fits : sumSizes src.planes < 2 ^ 63)
    (fresh : Fresh buf (totalSize src.planes) src.planes) : copyFrame mem buf src =
      some { frame := materializeFrame buf src, memory := materializedMemory mem buf src, size := sumSizes src.planes } := by
  have unwrapped : sumSizes src.planes < 2 ^ 64 := by omega
  have total : totalSize src.planes = sumSizes src.planes := by rw [totalSize_eq, Nat.mod_eq_of_lt unwrapped]
  have room : ¬kVectorMaxSize < sumSizes src.planes := by
    unfold kVectorMaxSize
    omega
  rw [total] at fresh
  have run := @copyPlanes_eq mem buf [] src.planes (by simpa using unwrapped) (by simpa using fresh)
  rw [List.nil_append, List.nil_append, List.length_nil, Nat.add_zero] at run
  rw [copyFrame, total, if_neg room, run]
  rfl

theorem length_flatMap_bytes (mem : Memory) (planes : List FramePlane) :
    (planes.flatMap (·.bytes mem)).length = sumSizes planes := by
  rw [List.length_flatMap]
  simp only [FramePlane.length_bytes]
  rfl

theorem materializePlanes_rest (address : Nat) (planes : List FramePlane) :
    (materializePlanes address planes).map (·.size) = planes.map (·.size) ∧
      (materializePlanes address planes).map (·.stride) = planes.map (·.stride) := by
  induction planes generalizing address with
  | nil => exact ⟨rfl, rfl⟩
  | cons plane planes ih =>
    obtain ⟨sizes, strides⟩ := ih (address + plane.size)
    exact ⟨congrArg (plane.size :: ·) sizes, congrArg (plane.stride :: ·) strides⟩

/-- Consecutive planes end behind the sum of their sizes, and the buffer at the sum that wrapped. -/
theorem FaithfulCopy.sumSizes_lt {mem : Memory} {buf : Nat} {src : Frame} {out : MaterializedFrame}
    (copied : copyFrame mem buf src = some out) (faithful : FaithfulCopy mem buf src out) : sumSizes src.planes < 2 ^ 63 := by
  have last := consecutive_last faithful.partition
  have sizes : sumSizes out.frame.planes = sumSizes src.planes := by
    rw [sumSizes, faithful.sizes, sumSizes]
  have room : out.size = totalSize src.planes ∧ totalSize src.planes ≤ kVectorMaxSize := by
    unfold copyFrame at copied
    dsimp only at copied
    split at copied
    · cases copied
    · obtain rfl := Option.some.inj copied
      exact ⟨rfl, by omega⟩
  have most : kVectorMaxSize < 2 ^ 63 := by decide
  omega

/-- **There is a faithful copy exactly if the sizes of the planes add up to less than 2^63.** -/
theorem faithful_iff {mem : Memory} {buf : Nat} {src : Frame} (fresh : Fresh buf (totalSize src.planes) src.planes) :
    (∃ out, copyFrame mem buf src = some out ∧ FaithfulCopy mem buf src out) ↔ sumSizes src.planes < 2 ^ 63 := by
  constructor
  · rintro ⟨out, copied, faithful⟩
    exact faithful.sumSizes_lt copied
  · intro fits
    obtain ⟨sizes, strides⟩ := materializePlanes_rest buf src.planes
    refine ⟨_, copyFrame_eq fits fresh, rfl, rfl, rfl, rfl, rfl, sizes, strides, rfl,
      materializePlanes_consecutive buf src.planes, materializeFrame_bytes mem buf src, ?_⟩
    intro address outside
    dsimp only at outside ⊢
    rw [materializedMemory, Memory.write_apply, length_flatMap_bytes]
    exact if_neg outside

/-- Two planes that overlap, one without data and an empty one. -/
def oddPlanes : Frame where
  planes := [{ stride := 2, data := some 100, size := 4 }, { stride := 1, data := some 102, size := 3 },
    { stride := 1, data := none, size := 2 }, { data := some 103, size := 0 }]

theorem odd_planes_copied :
    ∃ out, copyFrame UInt8.ofNat 4096 oddPlanes = some out ∧ FaithfulCopy UInt8.ofNat 4096 oddPlanes out :=
  (faithful_iff (by simp [Fresh, oddPlanes, totalSize])).2 (by decide)

/-- So many planes of half the address space, without data. -/
def hugePlanes (count : Nat) : Frame where
  planes := List.replicate count { stride := 1, data := none, size := 2 ^ 63 }

/-- One of them gets no buffer, and two get one of no bytes. -/
theorem huge_planes_uncopied : copyFrame (fun _ => 0) 4096 (hugePlanes 1) = none ∧
    ∃ out, copyFrame (fun _ => 0) 4096 (hugePlanes 2) = some out ∧ out.size = 0 ∧
      ¬ FaithfulCopy (fun _ => 0) 4096 (hugePlanes 2) out :=
  ⟨rfl, _, rfl, rfl, fun faithful => absurd (faithful.sumSizes_lt rfl) (by decide)⟩

end SstCam
