import Mathlib.Data.List.Forall2
import SstCam.Capture.GStreamerAdapter
import SstCam.Lib.Tiling

/-!
# The planes of a camera frame

The planes that a sample is cut into (`createFrameFromSample`), by the offsets its caps give. The search
for the end of a plane is the one for the next start of a tiling, so the planes tile the mapped buffer
from the lowest offset on, whatever the order of the offsets (`frame_tiles`).
-/

namespace SstCam
set_option autoImplicit false

/-! ## Accepted samples -/

/-- What an accepted sample comes to. -/
theorem GStreamerAdapter.createFrameFromSample_some {now : Nat} {sample : GstSample} {a : GStreamerAdapter} {frame : Frame}
    (made : (a.createFrameFromSample now sample).2 = some frame) : ∃ info map base,
      sample.info = some info ∧ sample.map = some map ∧ map.data = some base ∧
        info.planes.mapM (framePlane base map.size info.planes) = some frame.planes ∧
        info.format.toPixelFormat = some frame.format ∧ frame.geometry = { width := info.width, height := info.height } := by
  unfold createFrameFromSample at made
  cases caps : sample.info with
  | none => simp [caps] at made
  | some info =>
    cases mapped : sample.map with
    | none => simp [caps, mapped] at made
    | some map =>
      rw [caps, mapped] at made
      dsimp only at made
      split at made
      · cases made
      case h_2 planes cut =>
        obtain ⟨-, base, data, parts⟩ := GstMapInfo.framePlanes_some cut
        obtain ⟨-, rfl, known, geometry⟩ := GstMapInfo.frame_some made
        exact ⟨info, map, base, rfl, rfl, data, parts, known, geometry⟩

/-- The search for the end of a plane, as one for the next start. -/
theorem planeEnd_eq (size offset : Nat) (planes : List GstPlaneInfo) :
    planeEnd size offset planes = Tiling.next size (planes.map (·.offset)) offset := by
  rw [planeEnd, Tiling.next, List.foldl_map]

/-- A plane ends behind its start and within the buffer, so of the tests only the first can fail, and
the size does not underflow. -/
theorem framePlane_eq (base size : Nat) (planes : List GstPlaneInfo) (plane : GstPlaneInfo) :
    framePlane base size planes plane =
      if plane.offset < size then
        some { stride := plane.stride, data := some (base + plane.offset),
               size := planeEnd size plane.offset planes - plane.offset }
      else none := by
  unfold framePlane
  by_cases within : plane.offset < size
  · have behind : plane.offset < planeEnd size plane.offset planes := by
      rw [planeEnd_eq]
      exact Tiling.lt_next within
    have ends : planeEnd size plane.offset planes ≤ size := by
      rw [planeEnd_eq]
      exact Tiling.next_le
    rw [if_neg (by omega), if_neg (by omega), if_pos within]
    dsimp only
    rw [if_neg (by omega)]
  · rw [if_pos (by omega), if_neg within]

/-- A plane starts in the buffer and ends where the next one starts, or with it. -/
theorem framePlane_some {base size : Nat} {planes : List GstPlaneInfo} {plane : GstPlaneInfo} {f : FramePlane}
    (made : framePlane base size planes plane = some f) : plane.offset < size ∧ plane.offset < planeEnd size plane.offset planes ∧
      f = { stride := plane.stride, data := some (base + plane.offset),
            size := planeEnd size plane.offset planes - plane.offset } := by
  rw [framePlane_eq] at made
  split at made
  case isTrue within =>
    refine ⟨within, ?_, (Option.some_inj.1 made).symm⟩
    rw [planeEnd_eq]
    exact Tiling.lt_next within
  case isFalse => cases made

theorem forall₂_of_mapM {α β : Type} {f : α → Option β} {xs : List α} {ys : List β} (made : xs.mapM f = some ys) :
    List.Forall₂ (fun x y => f x = some y) xs ys := by
  induction xs generalizing ys with
  | nil =>
    obtain rfl : ys = [] := by simpa using made.symm
    exact .nil
  | cons x xs ih =>
    rw [List.mapM_cons] at made
    simp only [Option.bind_eq_bind, Option.bind_eq_some_iff, Option.pure_def, Option.some_inj] at made
    obtain ⟨y, here, rest, there, rfl⟩ := made
    exact .cons here (ih there)

namespace GstVideoInfo

/-- The bytes of a plane in the mapped buffer. -/
def planeSize (info : GstVideoInfo) (mapped : Nat) (plane : GstPlaneInfo) : Nat :=
  planeEnd mapped plane.offset info.planes - plane.offset

/-- What the frame says of a plane. -/
def toFramePlane (info : GstVideoInfo) (map : GstMapInfo) (plane : GstPlaneInfo) : FramePlane where
  stride := plane.stride
  data := map.data.map (· + plane.offset)
  size := info.planeSize map.size plane

/-- The bytes of a plane, counted from the start of the mapped buffer. -/
def bytes (info : GstVideoInfo) (mapped : Nat) (plane : GstPlaneInfo) : Set Nat :=
  Set.Ico plane.offset (plane.offset + info.planeSize mapped plane)

/-- The planes tile the mapped buffer from the lowest offset on. -/
structure Tiled (info : GstVideoInfo) (mapped : Nat) : Prop where
  nonempty : ∀ plane ∈ info.planes, (info.bytes mapped plane).Nonempty
  within : ∀ plane ∈ info.planes, info.bytes mapped plane ⊆ Set.Ico 0 mapped
  /-- At the end of the buffer where no offset is higher, else at the least that is. -/
  ends : ∀ plane ∈ info.planes,
    (plane.offset + info.planeSize mapped plane = mapped ∧ ∀ other ∈ info.planes, other.offset ≤ plane.offset) ∨
      IsLeast {offset | offset ∈ info.planes.map (·.offset) ∧ plane.offset < offset}
        (plane.offset + info.planeSize mapped plane)
  disjoint : ∀ plane ∈ info.planes, ∀ other ∈ info.planes, plane.offset ≠ other.offset →
    Disjoint (info.bytes mapped plane) (info.bytes mapped other)
  cover : ∀ lowest ∈ info.planes, (∀ plane ∈ info.planes, lowest.offset ≤ plane.offset) →
    ⋃ plane ∈ info.planes, info.bytes mapped plane = Set.Ico lowest.offset mapped

variable {info : GstVideoInfo} {mapped : Nat} {plane : GstPlaneInfo}

theorem offset_add_planeSize (within : plane.offset < mapped) :
    plane.offset + info.planeSize mapped plane = Tiling.next mapped (info.planes.map (·.offset)) plane.offset := by
  have behind : plane.offset < Tiling.next mapped (info.planes.map (·.offset)) plane.offset := Tiling.lt_next within
  rw [planeSize, planeEnd_eq]
  omega

theorem bytes_eq (within : plane.offset < mapped) :
    info.bytes mapped plane = Tiling.tile mapped (info.planes.map (·.offset)) plane.offset := by
  rw [bytes, offset_add_planeSize within, Tiling.tile]

/-- Offsets in the buffer are all it takes. -/
theorem tiled_of_within (within : ∀ plane ∈ info.planes, plane.offset < mapped) : info.Tiled mapped := by
  have start : ∀ plane ∈ info.planes, plane.offset ∈ info.planes.map (·.offset) := fun _ mem => List.mem_map_of_mem mem
  constructor
  · intro plane mem
    rw [bytes_eq (within plane mem)]
    exact Set.nonempty_Ico.2 (Tiling.lt_next (within plane mem))
  · intro plane mem
    rw [bytes_eq (within plane mem)]
    exact Tiling.tile_subset.trans (Set.Ico_subset_Ico_left (Nat.zero_le _))
  · intro plane mem
    rw [offset_add_planeSize (within plane mem)]
    by_cases higher : ∃ other ∈ info.planes, plane.offset < other.offset
    · obtain ⟨other, mem', above⟩ := higher
      exact .inr (Tiling.next_isLeast (start other mem') above (within other mem'))
    · have highest : ∀ other ∈ info.planes, other.offset ≤ plane.offset := by
        intro other mem'
        exact not_lt.1 fun above => higher ⟨other, mem', above⟩
      exact .inl ⟨Tiling.next_eq_last (within plane mem) (List.forall_mem_map.2 highest), highest⟩
  · intro plane mem other mem' ne
    rw [bytes_eq (within plane mem), bytes_eq (within other mem')]
    exact Tiling.disjoint_of_ne (start plane mem) (start other mem') ne
  · intro lowest mem least
    have cover := @Tiling.iUnion_eq Nat _ mapped lowest.offset (info.planes.map (·.offset)) (start lowest mem)
      (List.forall_mem_map.2 least)
    rw [← cover]
    ext byte
    simp only [Set.mem_iUnion, exists_prop, List.mem_map, exists_exists_and_eq_and]
    refine exists_congr fun plane => and_congr_right fun mem' => ?_
    rw [bytes_eq (within plane mem')]

end GstVideoInfo

/-- **The planes of a camera frame tile the mapped buffer.** -/
theorem frame_tiles {now : Nat} {sample : GstSample} {a : GStreamerAdapter} {frame : Frame}
    (made : (a.createFrameFromSample now sample).2 = some frame) : ∃ info map, sample.info = some info ∧
      sample.map = some map ∧ info.planes ≠ [] ∧ frame.planes = info.planes.map (info.toFramePlane map) ∧
        info.Tiled map.size := by
  obtain ⟨info, map, base, caps, mapped, data, planes, -, -⟩ := GStreamerAdapter.createFrameFromSample_some made
  have each : List.Forall₂ (fun plane shown => plane.offset < map.size ∧ info.toFramePlane map plane = shown)
      info.planes frame.planes := by
    refine (forall₂_of_mapM planes).imp fun plane shown cut => ?_
    obtain ⟨within, -, rfl⟩ := framePlane_some cut
    refine ⟨within, ?_⟩
    rw [GstVideoInfo.toFramePlane, data]
    rfl
  rw [List.forall₂_and_left, ← List.forall₂_map_left_iff, List.forall₂_eq_eq_eq] at each
  have some' : info.planes ≠ [] := by
    intro none
    simp [GStreamerAdapter.createFrameFromSample, caps, mapped, GstMapInfo.framePlanes, none] at made
  exact ⟨info, map, caps, mapped, some', each.2.symm, info.tiled_of_within each.1⟩

/-- A sample of NV12 whose planes are given in reverse. -/
def reversedSample : GstSample where
  info := some { format := .nv12, width := 2, height := 2, planes := [{ stride := 2, offset := 4 }, { stride := 2, offset := 0 }] }
  map := some { data := some 4096, size := 6 }

def reversedFrame : Frame where
  format := .nv12
  memory := .cpu
  geometry := { width := 2, height := 2 }
  planes := [{ stride := 2, data := some 4100, size := 2 }, { stride := 2, data := some 4096, size := 4 }]
  owner := some 4096

theorem reversed_frame_tiles : ∃ info map, reversedSample.info = some info ∧ reversedSample.map = some map ∧
    info.planes ≠ [] ∧ reversedFrame.planes = info.planes.map (info.toFramePlane map) ∧ info.Tiled map.size :=
  @frame_tiles 0 reversedSample {} reversedFrame (by decide)

end SstCam
