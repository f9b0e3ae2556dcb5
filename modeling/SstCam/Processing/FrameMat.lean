import Mathlib.Data.List.GetD
import Mathlib.Tactic.Ring
import SstCam.Buffer.MaterializeFrame

/-!
# FrameMat

An NV12 frame as one matrix, the rows of Y above those of the interleaved UV
(`adapters/processing/opencv/frame-mat.cpp`). Where the planes look contiguous the matrix lies over
the frame's own memory. The test for that does not see rows that pad the end of the Y plane: such
a matrix takes its UV rows from the padding (`rows_agree_iff`).
-/

namespace SstCam
set_option autoImplicit false

/-- A `CV_8UC1` matrix: over memory that is not its own, or with rows of its own. -/
inductive Mat where
  | view (rows cols data step : Nat)
  | owned (rows cols : Nat) (pixels : List (List UInt8))
  deriving DecidableEq, Repr

/-- The bytes of a row. -/
def Mat.row (mem : Memory) : Mat → Nat → List UInt8
  | .view _ cols data step, r => mem.read (data + r * step) cols
  | .owned _ _ pixels, r => pixels.getD r []

/-- `y` ends where `uv` starts, both without row padding. -/
def contiguous (width : Nat) (y uv : FramePlane) (yData uvData : Nat) : Bool :=
  y.stride = width && uv.stride = width && yData + y.size = uvData

/-- What OpenCV throws: sizes that are no `int`s of a matrix, and a region that is not in one. -/
inductive CvException where
  | size
  | regionOfInterest
  deriving DecidableEq, Repr

/-- The sizes of a matrix are `int`s. -/
def matFits (width height : Nat) : Bool := height + height / 2 < 2 ^ 31 && width < 2 ^ 31

/-- The first bytes of each row of a plane. -/
def planeRows (mem : Memory) (data stride rows width : Nat) : List (List UInt8) :=
  (List.range rows).map fun row => mem.read (data + row * stride) width

def wrapNv12 (mem : Memory) (frame : Frame) : Except CvException (Option Mat) :=
  if frame.format ≠ .nv12 then .ok none
  else
    match frame.planes with
    | [y, uv] =>
      let width := frame.geometry.width
      let height := frame.geometry.height
      if width = 0 ∨ height = 0 ∨ width % 2 ≠ 0 ∨ height % 2 ≠ 0 then .ok none
      else
        match y.data, uv.data with
        | some yData, some uvData =>
          -- the matrix is made of negative sizes, and it or its conversion fails an assertion
          if !matFits width height then .error .size
          else if contiguous width y uv yData uvData then .ok (some (.view (height + height / 2) width yData y.stride))
          else
            .ok (some (.owned (height + height / 2) width
              (planeRows mem yData y.stride height width ++ planeRows mem uvData uv.stride (height / 2) width)))
        | _, _ => .ok none
    | _ => .ok none

/-! ## Frames by their layout -/

/-- Where the planes of an NV12 frame lie. -/
structure Nv12Layout where
  width : Nat
  height : Nat
  y : FramePlane
  uv : FramePlane
  yData : Nat
  uvData : Nat
  deriving DecidableEq, Repr

namespace Nv12Layout

/-- A frame with this layout. -/
structure Of (l : Nv12Layout) (frame : Frame) : Prop where
  format : frame.format = .nv12
  planes : frame.planes = [l.y, l.uv]
  geometry : frame.geometry = { width := l.width, height := l.height }
  yData : l.y.data = some l.yData
  uvData : l.uv.data = some l.uvData

/-- Even sizes, and planes with room for their rows. -/
structure Valid (l : Nv12Layout) : Prop where
  width : 0 < l.width ∧ l.width % 2 = 0
  height : 0 < l.height ∧ l.height % 2 = 0
  yStride : l.width ≤ l.y.stride
  uvStride : l.width ≤ l.uv.stride
  ySize : l.y.stride * l.height ≤ l.y.size
  uvSize : l.uv.stride * (l.height / 2) ≤ l.uv.size

/-- The matrix shows the rows of the planes. -/
def RowsAgree (l : Nv12Layout) (mem : Memory) (m : Mat) : Prop :=
  (∀ r < l.height, m.row mem r = mem.read (l.yData + r * l.y.stride) l.width) ∧
    ∀ r < l.height / 2, m.row mem (l.height + r) = mem.read (l.uvData + r * l.uv.stride) l.width

/-- No padding rows lie between planes that look contiguous. -/
def Unpadded (l : Nv12Layout) : Prop :=
  contiguous l.width l.y l.uv l.yData l.uvData = true → l.y.size = l.width * l.height

variable {l : Nv12Layout} {frame : Frame}

theorem wrapNv12_eq (valid : l.Valid) (of : l.Of frame) (mem : Memory) : wrapNv12 mem frame =
    if !matFits l.width l.height then .error .size
    else if contiguous l.width l.y l.uv l.yData l.uvData then
      .ok (some (.view (l.height + l.height / 2) l.width l.yData l.y.stride))
    else
      .ok (some (.owned (l.height + l.height / 2) l.width
        (planeRows mem l.yData l.y.stride l.height l.width ++ planeRows mem l.uvData l.uv.stride (l.height / 2) l.width))) := by
  obtain ⟨width, width_even⟩ := valid.width
  obtain ⟨height, height_even⟩ := valid.height
  unfold wrapNv12
  rw [of.format, of.planes, of.geometry]
  simp only [ne_eq, not_true_eq_false, if_false, of.yData, of.uvData]
  rw [if_neg (by omega)]

theorem planeRows_getD {mem : Memory} {data stride rows width r : Nat} (h : r < rows) :
    (planeRows mem data stride rows width).getD r [] = mem.read (data + r * stride) width := by
  simp [planeRows, h]

/-- The copying path copies every row. -/
theorem owned_rowsAgree (l : Nv12Layout) (mem : Memory) (rows cols : Nat) : l.RowsAgree mem
    (.owned rows cols
      (planeRows mem l.yData l.y.stride l.height l.width ++ planeRows mem l.uvData l.uv.stride (l.height / 2) l.width)) := by
  have length : (planeRows mem l.yData l.y.stride l.height l.width).length = l.height := by simp [planeRows]
  constructor
  · intro r hr
    rw [Mat.row, List.getD_append _ _ _ _ (by omega), planeRows_getD hr]
  · intro r hr
    have skip : l.height + r - l.height = r := by omega
    rw [Mat.row, List.getD_append_right _ _ _ _ (by omega), length, skip, planeRows_getD hr]

/-- The view has the right UV rows exactly where nothing pads the Y plane. -/
theorem view_rowsAgree_iff (valid : l.Valid) (near : contiguous l.width l.y l.uv l.yData l.uvData = true) (rows : Nat) :
    (∀ mem, l.RowsAgree mem (.view rows l.width l.yData l.y.stride)) ↔ l.y.size = l.width * l.height := by
  simp only [contiguous, Bool.and_eq_true, decide_eq_true_eq] at near
  obtain ⟨⟨yStride, uvStride⟩, adjacent⟩ := near
  constructor
  · intro agree
    obtain ⟨width, -⟩ := valid.width
    obtain ⟨height, even⟩ := valid.height
    -- memory that is zero but for the first byte of UV
    have rows := (agree fun a => if a = l.uvData then 1 else 0).2 0 (by omega)
    have first := congrArg (·[0]?) rows
    simp only [Mat.row, Memory.getElem?_read _ _ width, Option.some.injEq] at first
    have there : l.yData + (l.height + 0) * l.y.stride + 0 = l.uvData := by
      by_contra elsewhere
      rw [if_neg elsewhere, if_pos (by omega)] at first
      exact absurd first (by decide)
    rw [yStride, Nat.add_zero, Nat.add_zero, Nat.mul_comm] at there
    omega
  · intro tight mem
    constructor
    · intro r hr
      rfl
    · intro r hr
      have same : l.yData + (l.height + r) * l.y.stride = l.uvData + r * l.uv.stride := by
        rw [← adjacent, tight, yStride, uvStride]
        ring
      rw [Mat.row, same]

/-- **When the zero-copy path agrees with the copying path.** Whatever memory holds, a matrix comes
back and shows the rows of both planes, exactly when its sizes are `int`s and no padding rows lie
between planes that look contiguous. -/
theorem rows_agree_iff (valid : l.Valid) (of : l.Of frame) :
    (∀ mem, ∃ m, wrapNv12 mem frame = .ok (some m) ∧ l.RowsAgree mem m) ↔ matFits l.width l.height = true ∧ l.Unpadded := by
  simp only [wrapNv12_eq valid of, Unpadded]
  cases matFits l.width l.height with
  | false => simp
  | true =>
    cases near : contiguous l.width l.y l.uv l.yData l.uvData with
    | false =>
      simp only [Bool.not_true, Bool.false_eq_true, if_false, false_implies, and_true, iff_true]
      intro mem
      exact ⟨_, rfl, l.owned_rowsAgree mem _ _⟩
    | true =>
      simp only [Bool.not_true, Bool.false_eq_true, if_false, if_true, true_implies, true_and, Except.ok.injEq,
        Option.some.injEq, exists_eq_left']
      exact view_rowsAgree_iff valid near _

/-- A layout of two planes at an address, one behind the other. -/
def adjacent (width height yStride ySize uvStride uvSize address : Nat) : Nv12Layout where
  width := width
  height := height
  y := { stride := yStride, data := some address, size := ySize }
  uv := { stride := uvStride, data := some (address + ySize), size := uvSize }
  yData := address
  uvData := address + ySize

def toFrame (l : Nv12Layout) : Frame :=
  { format := .nv12, geometry := { width := l.width, height := l.height }, planes := [l.y, l.uv] }

/-- Two rows of two pixels without any padding are shown as they are. -/
theorem tight_rows_agree :
    ((∀ mem, ∃ m, wrapNv12 mem (adjacent 2 2 2 4 2 2 4096).toFrame = .ok (some m) ∧ (adjacent 2 2 2 4 2 2 4096).RowsAgree mem m) ↔
        matFits 2 2 = true ∧ (adjacent 2 2 2 4 2 2 4096).Unpadded) ∧
      matFits 2 2 = true ∧ (adjacent 2 2 2 4 2 2 4096).Unpadded :=
  ⟨rows_agree_iff (by constructor <;> decide) (by constructor <;> rfl), by decide, by unfold Unpadded; decide⟩

/-- The same with one row of padding behind Y: the UV row shown is that padding. -/
theorem padding_shown_as_chroma : ∃ mem, (adjacent 2 2 2 6 2 2 4096).Valid ∧
    ¬ ∃ m, wrapNv12 mem (adjacent 2 2 2 6 2 2 4096).toFrame = .ok (some m) ∧ (adjacent 2 2 2 6 2 2 4096).RowsAgree mem m := by
  refine ⟨fun a => if a < 4102 then 0 else 128, by constructor <;> decide, ?_⟩
  rintro ⟨m, wrapped, -, chroma⟩
  have view : m = .view 3 2 4096 2 := by
    simpa [wrapNv12, toFrame, adjacent, matFits, contiguous] using wrapped.symm
  have row := chroma 0 (by decide)
  rw [view] at row
  exact absurd row (by decide)

/-! ## Materialized frames -/

/-- The layout of the copy of a frame. -/
def materialized (l : Nv12Layout) (buf : Nat) : Nv12Layout :=
  adjacent l.width l.height l.y.stride l.y.size l.uv.stride l.uv.size buf

theorem Of.materialized (of : l.Of frame) (buf : Nat) : (l.materialized buf).Of (materializeFrame buf frame) where
  format := of.format
  planes := by
    rw [materializeFrame, of.planes]
    rfl
  geometry := of.geometry
  yData := rfl
  uvData := rfl

/-- The copy looks contiguous as soon as no row is padded, whatever lay between the planes before. -/
theorem materialized_unpadded_iff (l : Nv12Layout) (buf : Nat) : (l.materialized buf).Unpadded ↔
    (l.y.stride = l.width → l.uv.stride = l.width → l.y.size = l.width * l.height) := by
  have near : contiguous l.width (l.materialized buf).y (l.materialized buf).uv buf (buf + l.y.size) = true ↔
      l.y.stride = l.width ∧ l.uv.stride = l.width := by
    simp only [contiguous, Bool.and_eq_true, decide_eq_true_eq]
    simp [Nv12Layout.materialized, adjacent]
  rw [← and_imp]
  exact imp_congr_left near

/-- The matrix of a copy shows the copied rows unless the Y plane has padding rows and neither
plane padded ones. -/
theorem materialized_rows_agree_iff (valid : l.Valid) (of : l.Of frame) (buf : Nat) :
    (∀ mem, ∃ m, wrapNv12 mem (materializeFrame buf frame) = .ok (some m) ∧ (l.materialized buf).RowsAgree mem m) ↔
      matFits l.width l.height = true ∧
        (l.y.stride = l.width → l.uv.stride = l.width → l.y.size = l.width * l.height) := by
  have valid' : (l.materialized buf).Valid :=
    ⟨valid.width, valid.height, valid.yStride, valid.uvStride, valid.ySize, valid.uvSize⟩
  rw [← materialized_unpadded_iff l buf]
  exact rows_agree_iff valid' (of.materialized buf)

end Nv12Layout

end SstCam
