import Mathlib.Data.List.Forall2
import SstCam.Capture.PlaneTiling
import SstCam.Processing.FrameMat

/-!
# The bytes behind an NV12 matrix

The rows of the matrix by their addresses (`wrapNv12_rows`), against the planes of the frame. The
planes of a camera frame end where the mapped buffer ends, however short it is, and the rows go by
the size and the strides of its caps: nothing on the way compares the two (`nv12_in_bounds_iff`).
-/

namespace SstCam
set_option autoImplicit false

def Mat.rowCount : Mat → Nat
  | .view rows _ _ _ => rows
  | .owned rows _ _ => rows

/-- The starts of rows a stride apart. -/
def rowStarts (data stride rows : Nat) : List Nat := (List.range rows).map fun row => data + row * stride

/-- Where the rows of the matrix are taken from: the copying path reads there, and the zero-copy path
shows what is there. -/
def wrappedRows (frame : Frame) : Option (List Nat) :=
  if frame.format ≠ .nv12 then none
  else
    match frame.planes with
    | [y, uv] =>
      let width := frame.geometry.width
      let height := frame.geometry.height
      if width = 0 ∨ height = 0 ∨ width % 2 ≠ 0 ∨ height % 2 ≠ 0 then none
      else
        match y.data, uv.data with
        | some yData, some uvData =>
          if !matFits width height then none
          else if contiguous width y uv yData uvData then some (rowStarts yData y.stride (height + height / 2))
          else some (rowStarts yData y.stride height ++ rowStarts uvData uv.stride (height / 2))
        | _, _ => none
    | _ => none

@[simp] theorem length_rowStarts (data stride rows : Nat) : (rowStarts data stride rows).length = rows := by simp [rowStarts]

@[simp] theorem getElem_rowStarts {data stride rows r : Nat} (lt : r < (rowStarts data stride rows).length) :
    (rowStarts data stride rows)[r] = data + r * stride := by simp [rowStarts]

theorem planeRows_eq (mem : Memory) (data stride rows width : Nat) :
    planeRows mem data stride rows width = (rowStarts data stride rows).map (mem.read · width) := by
  simp [planeRows, rowStarts, Function.comp_def]

/-- The matrix shows the bytes at these rows. -/
theorem wrapNv12_rows (mem : Memory) (frame : Frame) :
    match wrappedRows frame with
    | none => ∀ m, wrapNv12 mem frame ≠ .ok (some m)
    | some starts => ∃ m, wrapNv12 mem frame = .ok (some m) ∧ m.rowCount = starts.length ∧
      ∀ r (lt : r < starts.length), m.row mem r = mem.read starts[r] frame.geometry.width := by
  unfold wrappedRows wrapNv12
  have nothing : ∀ m : Mat, (.ok none : Except CvException (Option Mat)) ≠ .ok (some m) := by
    rintro m ⟨⟩
  by_cases format : frame.format = .nv12
  · rw [if_neg (not_not.2 format), if_neg (not_not.2 format)]
    rcases frame.planes with _ | ⟨y, _ | ⟨uv, _ | _⟩⟩
    · exact nothing
    · exact nothing
    · dsimp only
      by_cases odd : frame.geometry.width = 0 ∨ frame.geometry.height = 0 ∨ frame.geometry.width % 2 ≠ 0 ∨
        frame.geometry.height % 2 ≠ 0
      · rw [if_pos odd, if_pos odd]
        exact nothing
      rw [if_neg odd, if_neg odd]
      rcases y.data with _ | yData
      · exact nothing
      rcases uv.data with _ | uvData
      · exact nothing
      dsimp only
      by_cases large : (!matFits frame.geometry.width frame.geometry.height) = true
      · rw [if_pos large, if_pos large]
        rintro m ⟨⟩
      rw [if_neg large, if_neg large]
      by_cases near : contiguous frame.geometry.width y uv yData uvData = true
      · rw [if_pos near, if_pos near]
        exact ⟨_, rfl, by simp [Mat.rowCount], fun r lt => by rw [Mat.row, getElem_rowStarts]⟩
      · rw [if_neg near, if_neg near]
        refine ⟨_, rfl, by simp [Mat.rowCount], fun r lt => ?_⟩
        rw [planeRows_eq, planeRows_eq, ← List.map_append, Mat.row, List.getD_eq_getElem _ _ (by simpa using lt),
          List.getElem_map]
    · exact nothing
  · rw [if_pos format, if_pos format]
    exact nothing

/-! ## Rows within a range -/

/-- Rows lie in a range exactly when the last one ends in it. -/
theorem rows_within_iff {lo hi start stride rows width : Nat} (some' : 0 < rows) (wide : 0 < width) (above : lo ≤ start) :
    (∀ s ∈ rowStarts start stride rows, ∀ i < width, lo ≤ s + i ∧ s + i < hi) ↔ start + (rows - 1) * stride + width ≤ hi := by
  constructor
  · intro within
    have last := within (start + (rows - 1) * stride)
      (List.mem_map.2 ⟨rows - 1, List.mem_range.2 (Nat.sub_lt some' Nat.one_pos), rfl⟩) (width - 1) (by omega)
    omega
  · intro fits s mem i lt
    obtain ⟨r, hr, rfl⟩ := List.mem_map.1 mem
    have below : r * stride ≤ (rows - 1) * stride := Nat.mul_le_mul_right _ (by have := List.mem_range.1 hr; omega)
    omega

/-- The rows of a picture end in a buffer: those of the one matrix where the planes are joined, else
those of each plane. -/
def rowsFit (width height yStart yStride uvStart uvStride size : Nat) (joined : Prop) [Decidable joined] : Prop :=
  if joined then yStart + (height + height / 2) * width ≤ size
  else yStart + (height - 1) * yStride + width ≤ size ∧ uvStart + (height / 2 - 1) * uvStride + width ≤ size

/-- The byte at an address is one of a plane's. -/
def Frame.Owns (frame : Frame) (address : Nat) : Prop :=
  ∃ plane ∈ frame.planes, ∃ data, plane.data = some data ∧ data ≤ address ∧ address < data + plane.size

/-- Every byte behind the matrix is one of the frame's. -/
def Frame.InBounds (frame : Frame) : Prop :=
  ∀ starts, wrappedRows frame = some starts → ∀ s ∈ starts, ∀ i < frame.geometry.width, frame.Owns (s + i)

/-- The sizes are even, not zero, and those of a matrix. -/
def wrappable (width height : Nat) : Prop :=
  width ≠ 0 ∧ height ≠ 0 ∧ width % 2 = 0 ∧ height % 2 = 0 ∧ matFits width height = true

namespace Nv12Layout

variable {l : Nv12Layout} {frame : Frame}

/-- The rows a frame of this layout is taken from. -/
def starts (l : Nv12Layout) : List Nat :=
  if contiguous l.width l.y l.uv l.yData l.uvData then rowStarts l.yData l.y.stride (l.height + l.height / 2)
  else rowStarts l.yData l.y.stride l.height ++ rowStarts l.uvData l.uv.stride (l.height / 2)

theorem wrappedRows_of (of : l.Of frame) (starts : List Nat) :
    wrappedRows frame = some starts ↔ wrappable l.width l.height ∧ l.starts = starts := by
  unfold wrappedRows wrappable Nv12Layout.starts
  rw [of.format, of.planes, of.geometry]
  simp only [ne_eq, not_true_eq_false, if_false, of.yData, of.uvData]
  by_cases odd : l.width = 0 ∨ l.height = 0 ∨ ¬l.width % 2 = 0 ∨ ¬l.height % 2 = 0
  · rw [if_pos odd]
    exact ⟨nofun, fun h => by omega⟩
  · rw [if_neg odd]
    simp only [not_or, not_not] at odd
    cases matFits l.width l.height with
    | false => simp
    | true =>
      rw [if_neg (by decide), ← apply_ite some]
      simp [odd]

/-- Where the planes make up one range that both start in, the bytes behind the matrix are the
frame's exactly when the rows end in it. -/
theorem inBounds_iff (of : l.Of frame) {lo hi : Nat} (owns : ∀ a, frame.Owns a ↔ lo ≤ a ∧ a < hi) (yAbove : lo ≤ l.yData)
    (uvAbove : lo ≤ l.uvData) : frame.InBounds ↔ (wrappable l.width l.height →
      rowsFit l.width l.height l.yData l.y.stride l.uvData l.uv.stride hi
        (contiguous l.width l.y l.uv l.yData l.uvData = true)) := by
  have within : frame.InBounds ↔ (wrappable l.width l.height → ∀ s ∈ l.starts, ∀ i < l.width, lo ≤ s + i ∧ s + i < hi) := by
    unfold Frame.InBounds
    simp only [wrappedRows_of of, owns, of.geometry, and_imp, forall_comm (β := wrappable l.width l.height)]
    exact ⟨fun h sizes => h sizes _ rfl, fun h sizes starts same => same ▸ h sizes⟩
  rw [within]
  refine imp_congr_right fun sizes => ?_
  obtain ⟨width, height, -, even, -⟩ := sizes
  unfold starts rowsFit
  by_cases near : contiguous l.width l.y l.uv l.yData l.uvData = true
  · have stride : l.y.stride = l.width := by
      simp only [contiguous, Bool.and_eq_true, decide_eq_true_eq] at near
      exact near.1.1
    obtain ⟨k, rows⟩ : ∃ k, l.height + l.height / 2 = k + 1 := ⟨l.height + l.height / 2 - 1, by omega⟩
    rw [if_pos near, if_pos near, rows_within_iff (by omega) (by omega) yAbove, rows, stride, Nat.add_sub_cancel,
      Nat.succ_mul, Nat.add_assoc]
  · rw [if_neg near, if_neg near, ← rows_within_iff (by omega) (by omega) yAbove,
      ← rows_within_iff (by omega) (by omega) uvAbove]
    exact List.forall_mem_append

theorem owns_iff (of : l.Of frame) (a : Nat) : frame.Owns a ↔
    (l.yData ≤ a ∧ a < l.yData + l.y.size) ∨ (l.uvData ≤ a ∧ a < l.uvData + l.uv.size) := by
  unfold Frame.Owns
  rw [of.planes]
  simp [of.yData, of.uvData]

end Nv12Layout

/-! ## Camera frames -/

/-- Where the first of two planes ends, and where the second. -/
theorem planeEnd_pair {size : Nat} {y uv : GstPlaneInfo} (yIn : y.offset < size) (uvIn : uv.offset < size) :
    planeEnd size y.offset [y, uv] = (if y.offset < uv.offset then uv.offset else size) ∧
      planeEnd size uv.offset [y, uv] = if uv.offset < y.offset then y.offset else size := by
  constructor <;> simp [planeEnd, yIn, uvIn]

namespace GstVideoInfo

/-- Of an NV12 picture that is wrapped, the rows lie in the mapped buffer. -/
def RowsMapped (info : GstVideoInfo) (mapped : Nat) : Prop :=
  match info.planes with
  | [y, uv] => info.format = .nv12 → wrappable info.width info.height →
    rowsFit info.width info.height y.offset y.stride uv.offset uv.stride mapped
      (y.stride = info.width ∧ uv.stride = info.width ∧ y.offset < uv.offset)
  | _ => True

/-- The rows of its copy lie in the two planes, one behind the other. -/
def RowsCopied (info : GstVideoInfo) (mapped : Nat) : Prop :=
  match info.planes with
  | [y, uv] => info.format = .nv12 → wrappable info.width info.height →
    rowsFit info.width info.height 0 y.stride (info.planeSize mapped y) uv.stride
      (info.planeSize mapped y + info.planeSize mapped uv) (y.stride = info.width ∧ uv.stride = info.width)
  | _ => True

end GstVideoInfo

/-- The rows fit wherever the buffer lies. -/
theorem rowsFit_add (base width height yStart yStride uvStart uvStride size : Nat) (joined joined' : Prop) [Decidable joined]
    [Decidable joined'] (same : joined' ↔ joined) :
    rowsFit width height (base + yStart) yStride (base + uvStart) uvStride (base + size) joined' ↔
      rowsFit width height yStart yStride uvStart uvStride size joined := by
  unfold rowsFit
  by_cases near : joined
  · rw [if_pos near, if_pos (same.2 near)]
    omega
  · rw [if_neg near, if_neg (mt same.1 near)]
    omega

/-- Without two planes in NV12 nothing is wrapped. -/
theorem inBounds_of_not_nv12 {frame : Frame} (other : frame.format ≠ .nv12 ∨ ∀ y uv, frame.planes ≠ [y, uv]) : frame.InBounds := by
  intro starts wrapped
  unfold wrappedRows at wrapped
  rcases other with format | planes
  · rw [if_pos format] at wrapped
    cases wrapped
  · split at wrapped
    · cases wrapped
    · split at wrapped
      case h_1 y uv two => exact absurd two (planes y uv)
      · cases wrapped

@[simp] theorem length_materializePlanes (address : Nat) (planes : List FramePlane) :
    (materializePlanes address planes).length = planes.length := by
  induction planes generalizing address with
  | nil => rfl
  | cons plane planes ih => exact congrArg (· + 1) (ih _)

/-- Nor is a copy of such a frame. -/
theorem materialized_inBounds_of_not_nv12 {frame : Frame} (other : frame.format ≠ .nv12 ∨ ∀ y uv, frame.planes ≠ [y, uv])
    (buf : Nat) : (materializeFrame buf frame).InBounds := by
  refine inBounds_of_not_nv12 (other.imp_right fun planes y uv two => ?_)
  have size : frame.planes.length = 2 := by
    rw [← length_materializePlanes buf]
    exact congrArg List.length two
  obtain ⟨y', uv', pair⟩ := List.length_eq_two.1 size
  exact planes y' uv' pair

section
variable {info : GstVideoInfo} {base mapped : Nat} {frame : Frame} {y uv : GstPlaneInfo}

/-- The layout of a frame of two planes of a mapped buffer. -/
def GstVideoInfo.layout (info : GstVideoInfo) (base mapped : Nat) (y uv : GstPlaneInfo) : Nv12Layout where
  width := info.width
  height := info.height
  y := { stride := y.stride, data := some (base + y.offset), size := info.planeSize mapped y }
  uv := { stride := uv.stride, data := some (base + uv.offset), size := info.planeSize mapped uv }
  yData := base + y.offset
  uvData := base + uv.offset

/-- The planes of the frame make up the buffer from the lower offset on. -/
theorem inBounds_mapped (two : info.planes = [y, uv]) (yIn : y.offset < mapped) (uvIn : uv.offset < mapped)
    (of : (info.layout base mapped y uv).Of frame) : frame.InBounds ↔ (wrappable info.width info.height →
      rowsFit info.width info.height y.offset y.stride uv.offset uv.stride mapped
        (y.stride = info.width ∧ uv.stride = info.width ∧ y.offset < uv.offset)) := by
  obtain ⟨yEnd, uvEnd⟩ := planeEnd_pair yIn uvIn
  have owns : ∀ a, frame.Owns a ↔ base + min y.offset uv.offset ≤ a ∧ a < base + mapped := fun a => by
    rw [Nv12Layout.owns_iff of]
    simp only [GstVideoInfo.layout, GstVideoInfo.planeSize, two, yEnd, uvEnd]
    split_ifs <;> omega
  have joined : contiguous info.width (info.layout base mapped y uv).y (info.layout base mapped y uv).uv (base + y.offset)
      (base + uv.offset) = true ↔ y.stride = info.width ∧ uv.stride = info.width ∧ y.offset < uv.offset := by
    simp only [contiguous, GstVideoInfo.layout, GstVideoInfo.planeSize, two, yEnd, Bool.and_eq_true, decide_eq_true_eq, and_assoc]
    refine and_congr_right fun _ => and_congr_right fun _ => ?_
    split_ifs <;> omega
  rw [Nv12Layout.inBounds_iff of owns (Nat.add_le_add_left (min_le_left _ _) _) (Nat.add_le_add_left (min_le_right _ _) _)]
  exact imp_congr_right fun _ => rowsFit_add base _ _ _ _ _ _ _ _ _ joined

/-- The planes of the copy make up its buffer. -/
theorem inBounds_copied (yIn : 0 < info.planeSize mapped y) (uvIn : 0 < info.planeSize mapped uv)
    (of : (info.layout base mapped y uv).Of frame) (buf : Nat) : (materializeFrame buf frame).InBounds ↔
      (wrappable info.width info.height →
        rowsFit info.width info.height 0 y.stride (info.planeSize mapped y) uv.stride
          (info.planeSize mapped y + info.planeSize mapped uv) (y.stride = info.width ∧ uv.stride = info.width)) := by
  have copied := of.materialized buf
  have owns : ∀ a, (materializeFrame buf frame).Owns a ↔
      buf ≤ a ∧ a < buf + (info.planeSize mapped y + info.planeSize mapped uv) := fun a => by
    rw [Nv12Layout.owns_iff copied]
    simp only [Nv12Layout.materialized, Nv12Layout.adjacent, GstVideoInfo.layout]
    omega
  have joined : contiguous info.width ((info.layout base mapped y uv).materialized buf).y
      ((info.layout base mapped y uv).materialized buf).uv buf (buf + info.planeSize mapped y) = true ↔
        y.stride = info.width ∧ uv.stride = info.width := by
    simp only [contiguous, Bool.and_eq_true, decide_eq_true_eq]
    simp [Nv12Layout.materialized, Nv12Layout.adjacent, GstVideoInfo.layout]
  rw [Nv12Layout.inBounds_iff copied owns (Nat.le_refl _) (Nat.le_add_right _ _)]
  exact imp_congr_right fun _ => rowsFit_add buf _ _ 0 _ _ _ _ _ _ joined

end

/-- **Short buffers.** The matrix of an accepted sample lies over the frame's own bytes exactly when the rows
of the picture lie in the mapped buffer; and that of its copy, when they lie in the planes cut from it. -/
theorem nv12_in_bounds_iff {now : Nat} {sample : GstSample} {a : GStreamerAdapter} {frame : Frame} {info : GstVideoInfo}
    {map : GstMapInfo} (accepted : (a.createFrameFromSample now sample).2 = some frame) (caps : sample.info = some info)
    (buffer : sample.map = some map) (buf : Nat) :
    (frame.InBounds ↔ info.RowsMapped map.size) ∧ ((materializeFrame buf frame).InBounds ↔ info.RowsCopied map.size) := by
  obtain ⟨info', map', base, caps', buffer', data, made, known, geometry⟩ := GStreamerAdapter.createFrameFromSample_some accepted
  obtain rfl := Option.some_inj.1 (caps.symm.trans caps')
  obtain rfl := Option.some_inj.1 (buffer.symm.trans buffer')
  have parts := forall₂_of_mapM made
  by_cases pair : frame.format = .nv12 ∧ ∃ y uv, info.planes = [y, uv]
  · obtain ⟨nv12, y, uv, two⟩ := pair
    have format : info.format = .nv12 := by
      rw [nv12] at known
      cases given : info.format <;> simp [given, GstVideoFormat.toPixelFormat] at known ⊢
    rw [two] at parts
    generalize whole : frame.planes = planes at parts
    cases parts with
    | cons here rest => ?_
    cases rest with
    | cons there rest => ?_
    cases rest
    obtain ⟨yIn, yEnd, rfl⟩ := framePlane_some here
    obtain ⟨uvIn, uvEnd, rfl⟩ := framePlane_some there
    have of : (info.layout base map.size y uv).Of frame := by
      refine ⟨nv12, ?_, geometry, rfl, rfl⟩
      rw [whole]
      simp [GstVideoInfo.layout, GstVideoInfo.planeSize, two]
    rw [inBounds_mapped two yIn uvIn of, inBounds_copied (by simp [GstVideoInfo.planeSize, two]; omega)
      (by simp [GstVideoInfo.planeSize, two]; omega) of buf]
    simp only [GstVideoInfo.RowsMapped, GstVideoInfo.RowsCopied, two, format, true_implies]
    trivial
  · have other : frame.format ≠ .nv12 ∨ ∀ y uv, frame.planes ≠ [y, uv] := by
      refine or_iff_not_imp_left.2 fun nv12 y uv planes => pair ⟨not_not.1 nv12, ?_⟩
      exact List.length_eq_two.1 (by rw [parts.length_eq, planes]; rfl)
    have unwrapped : ∀ y uv, info.planes = [y, uv] → info.format ≠ .nv12 := fun y uv two format => by
      rw [format] at known
      exact pair ⟨(Option.some_inj.1 known).symm, y, uv, two⟩
    refine ⟨iff_of_true (inBounds_of_not_nv12 other) ?_, iff_of_true (materialized_inBounds_of_not_nv12 other buf) ?_⟩
    · unfold GstVideoInfo.RowsMapped
      split
      case h_1 y uv two => exact fun format => absurd format (unwrapped y uv two)
      · trivial
    · unfold GstVideoInfo.RowsCopied
      split
      case h_1 y uv two => exact fun format => absurd format (unwrapped y uv two)
      · trivial

/-- A picture of four by four in a buffer of so many bytes at an address: its rows are 24 bytes. -/
def smallPicture (size : Nat) : GstSample where
  info := some { format := .nv12, width := 4, height := 4, planes := [⟨4, 0⟩, ⟨4, 16⟩] }
  map := some { data := some 4096, size }

/-- A buffer of 24 bytes has them all. -/
theorem whole_picture_in_bounds :
    ∃ frame, (({} : GStreamerAdapter).createFrameFromSample 0 (smallPicture 24)).2 = some frame ∧ frame.InBounds ∧
      (materializeFrame 8192 frame).InBounds := by
  have accepted : (({} : GStreamerAdapter).createFrameFromSample 0 (smallPicture 24)).2 = some _ := rfl
  have bounds := nv12_in_bounds_iff accepted rfl rfl 8192
  exact ⟨_, rfl, bounds.1.2 fun _ _ => by unfold rowsFit; decide, bounds.2.2 fun _ _ => by unfold rowsFit; decide⟩

/-- A buffer of 17 bytes is accepted, and the last rows lie behind it. -/
theorem short_picture_out_of_bounds :
    ∃ frame, (({} : GStreamerAdapter).createFrameFromSample 0 (smallPicture 17)).2 = some frame ∧ ¬frame.InBounds ∧
      ¬(materializeFrame 8192 frame).InBounds := by
  refine ⟨_, rfl, fun inside => ?_, fun inside => ?_⟩
  · obtain ⟨plane, mem, data, here, -, below⟩ := inside _ rfl 4116 (by decide) 0 (by decide)
    have planes : plane ∈ [⟨4, some 4096, 16⟩, ⟨4, some 4112, 1⟩] := mem
    rcases List.mem_pair.1 planes with rfl | rfl <;> cases here <;> exact absurd below (by decide)
  · obtain ⟨plane, mem, data, here, -, below⟩ := inside _ rfl 8212 (by decide) 0 (by decide)
    have planes : plane ∈ [⟨4, some 8192, 16⟩, ⟨4, some 8208, 1⟩] := mem
    rcases List.mem_pair.1 planes with rfl | rfl <;> cases here <;> exact absurd below (by decide)

end SstCam
