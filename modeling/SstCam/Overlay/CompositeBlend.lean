import Mathlib.Algebra.Order.Field.Basic
import Mathlib.Tactic.Linarith
import SstCam.Lib.LocalUpdates
import SstCam.Overlay.FrameCompositor

/-!
# What is drawn of an overlay

The two loops of `CompositeOverlay` change each byte of the drawn rectangle once, to the blend of
the source's byte and of the overlay's nearest pixel, and no other byte (`blendAll_local`). With
every access checked they do the same: no index they use is out of bounds (`blendAll_checked`).
-/

namespace SstCam
set_option autoImplicit false

open LocalUpdates

namespace FrameCompositor

/-! ## Blending a byte -/

theorem blend_le (dst channel alpha : UInt8) : dst.toNat * (255 - alpha.toNat) + channel.toNat * alpha.toNat ≤
    255 * max dst.toNat channel.toNat := by
  have byte := alpha.toNat_lt
  have share : 255 - alpha.toNat + alpha.toNat = 255 := by omega
  calc dst.toNat * (255 - alpha.toNat) + channel.toNat * alpha.toNat
      ≤ max dst.toNat channel.toNat * (255 - alpha.toNat) + max dst.toNat channel.toNat * alpha.toNat :=
        Nat.add_le_add (Nat.mul_le_mul_right _ (Nat.le_max_left _ _)) (Nat.mul_le_mul_right _ (Nat.le_max_right _ _))
    _ = 255 * max dst.toNat channel.toNat := by rw [← Nat.mul_add, share, Nat.mul_comm]

theorem le_blend (dst channel alpha : UInt8) : 255 * min dst.toNat channel.toNat ≤
    dst.toNat * (255 - alpha.toNat) + channel.toNat * alpha.toNat := by
  have byte := alpha.toNat_lt
  have share : 255 - alpha.toNat + alpha.toNat = 255 := by omega
  calc 255 * min dst.toNat channel.toNat
      = min dst.toNat channel.toNat * (255 - alpha.toNat) + min dst.toNat channel.toNat * alpha.toNat := by
        rw [← Nat.mul_add, share, Nat.mul_comm]
    _ ≤ dst.toNat * (255 - alpha.toNat) + channel.toNat * alpha.toNat :=
        Nat.add_le_add (Nat.mul_le_mul_right _ (Nat.min_le_left _ _)) (Nat.mul_le_mul_right _ (Nat.min_le_right _ _))

/-- The blend needs no cast: it lies between the two bytes. -/
theorem blend_toNat (dst channel alpha : UInt8) :
    (blend dst channel alpha).toNat = (dst.toNat * (255 - alpha.toNat) + channel.toNat * alpha.toNat) / 255 := by
  have upper := blend_le dst channel alpha
  have first := dst.toNat_lt
  have second := channel.toNat_lt
  rw [blend, UInt8.toNat_ofNat']
  apply Nat.mod_eq_of_lt
  omega

theorem blend_between (dst channel alpha : UInt8) :
    min dst.toNat channel.toNat ≤ (blend dst channel alpha).toNat ∧
      (blend dst channel alpha).toNat ≤ max dst.toNat channel.toNat := by
  have upper := blend_le dst channel alpha
  have lower := le_blend dst channel alpha
  rw [blend_toNat]
  omega

@[simp] theorem blend_transparent (dst channel : UInt8) : blend dst channel 0 = dst := by
  apply UInt8.toNat_inj.1
  rw [blend_toNat]
  simp

/-! ## Blending a pixel -/

/-- What a pixel of the overlay does to the byte of the frame that is so far behind its first. -/
def blendByte (overlay : RgbaImage) (ovOff channel : Nat) (dst : UInt8) : UInt8 :=
  blend dst (overlay.pixels.getD (ovOff + (2 - channel)) 0) (overlay.pixels.getD (ovOff + 3) 0)

theorem blendPixel_local (overlay : RgbaImage) (ovOff dstOff : Nat) :
    Local (blendPixel overlay ovOff dstOff) (fun k => dstOff ≤ k ∧ k < dstOff + 3)
      (fun k => blendByte overlay ovOff (k - dstOff)) := by
  by_cases transparent : overlay.pixels.getD (ovOff + 3) 0 = 0
  · have same : blendPixel overlay ovOff dstOff = id := by
      funext xs
      exact if_pos transparent
    have kept : ∀ channel, blendByte overlay ovOff channel = id := by
      intro channel
      funext dst
      rw [blendByte, transparent, blend_transparent, id]
    rw [same]
    exact ⟨fun xs k _ => by rw [kept, Option.map_id, id, id], fun xs k _ => rfl⟩
  · have channels : Local (fun xs => [0, 1, 2].foldl (fun xs i =>
        xs.set (dstOff + i) (blendByte overlay ovOff i (xs.getD (dstOff + i) 0))) xs)
          (fun k => ∃ i ∈ [0, 1, 2], k = dstOff + i) (fun k => blendByte overlay ovOff (k - dstOff)) := by
      apply Local.foldl
      · intro i hi
        apply Local.set.congr
        · exact fun k => Iff.rfl
        · rintro k rfl
          rw [Nat.add_sub_cancel_left]
      · have distinct : [0, 1, 2].Pairwise (· ≠ ·) := by decide
        apply distinct.imp
        intro i j ne k hi hj
        omega
    have same : blendPixel overlay ovOff dstOff = fun xs => [0, 1, 2].foldl (fun xs i =>
        xs.set (dstOff + i) (blendByte overlay ovOff i (xs.getD (dstOff + i) 0))) xs := by
      funext xs
      rw [blendPixel, if_neg transparent]
      rfl
    rw [same]
    apply channels.congr
    · intro k
      simp only [List.mem_cons, List.not_mem_nil, or_false, exists_eq_or_imp, exists_eq_left]
      omega
    · exact fun k _ => rfl

/-! ## The rectangle -/

/-- A factor that fits the overlay's extent into the frame's draws no more than that. -/
theorem drawn_le {frame extent : Nat} {scale : ℚ} (some : 0 < frame) (fits : scale ≤ frame / extent) :
    max 1 (extent * scale).floor.toNat ≤ frame := by
  apply Nat.max_le.2 ⟨some, ?_⟩
  have product : (extent : ℚ) * scale ≤ ((frame : Int) : ℚ) := by
    obtain rfl | wide := Nat.eq_zero_or_pos extent
    · simp
    · have pos : (0 : ℚ) < extent := by exact_mod_cast wide
      calc (extent : ℚ) * scale ≤ extent * (frame / extent) := mul_le_mul_of_nonneg_left fits pos.le
        _ = ((frame : Int) : ℚ) := by rw [mul_div_cancel₀ _ pos.ne', Int.cast_natCast]
  have floor := Rat.floor_monotone product
  rw [Rat.floor_intCast] at floor
  omega

/-- The rectangle that is drawn lies inside the frame. -/
structure Placement.Within (p : Placement) (width height : Nat) : Prop where
  drawW : 0 < p.drawW
  drawH : 0 < p.drawH
  columns : p.offX + p.drawW ≤ width
  rows : p.offY + p.drawH ≤ height

theorem placement_within {width height : Nat} (wide : 0 < width) (high : 0 < height) (overlay : RgbaImage) :
    (placement width height overlay).Within width height := by
  have fitsW : max 1 (overlay.width * (placement width height overlay).scale).floor.toNat ≤ width :=
    drawn_le wide (min_le_left _ _)
  have fitsH : max 1 (overlay.height * (placement width height overlay).scale).floor.toNat ≤ height :=
    drawn_le high (min_le_right _ _)
  refine ⟨Nat.lt_of_lt_of_le Nat.one_pos (Nat.le_max_left _ _), Nat.lt_of_lt_of_le Nat.one_pos (Nat.le_max_left _ _), ?_, ?_⟩
  · show (width - min width (placement width height overlay).drawW) / 2 + (placement width height overlay).drawW ≤ width
    have drawW : (placement width height overlay).drawW ≤ width := fitsW
    omega
  · show (height - min height (placement width height overlay).drawH) / 2 + (placement width height overlay).drawH ≤ height
    have drawH : (placement width height overlay).drawH ≤ height := fitsH
    omega

/-! ## The two loops -/

/-- Where the bytes of a pixel lie. -/
theorem pixel_index {stride x y k : Nat} (within : (x + 1) * 3 ≤ stride) :
    y * stride + x * 3 ≤ k ∧ k < y * stride + x * 3 + 3 ↔ k / stride = y ∧ k % stride / 3 = x := by
  have split := Nat.div_add_mod' k stride
  constructor
  · rintro ⟨lower, upper⟩
    have row : k / stride = y := by
      apply Nat.div_eq_of_lt_le
      · omega
      · rw [Nat.succ_mul]
        omega
    rw [row] at split
    exact ⟨row, by omega⟩
  · rintro ⟨rfl, column⟩
    omega

/-- The overlay's pixel for a byte of the frame. -/
def pixelAt (overlay : RgbaImage) (p : Placement) (srcStride k : Nat) : Nat :=
  sampleAt overlay.height p.scale (k / srcStride - p.offY) * overlay.stride +
    sampleAt overlay.width p.scale (k % srcStride / 3 - p.offX) * 4

/-- What is drawn onto a byte of the frame. -/
def drawnByte (overlay : RgbaImage) (p : Placement) (srcStride k : Nat) : UInt8 → UInt8 :=
  blendByte overlay (pixelAt overlay p srcStride k) (k % srcStride % 3)

/-- The byte lies in the rectangle. -/
structure Placement.Covers (p : Placement) (srcStride k : Nat) : Prop where
  row : p.offY ≤ k / srcStride ∧ k / srcStride < p.offY + p.drawH
  column : p.offX ≤ k % srcStride / 3 ∧ k % srcStride / 3 < p.offX + p.drawW

section
variable {overlay : RgbaImage} {p : Placement} {width height srcStride : Nat}

theorem drawPixel_local {dx dy : Nat} (room : (p.offX + dx + 1) * 3 ≤ srcStride) :
    Local (blendPixel overlay (sampleAt overlay.height p.scale dy * overlay.stride + sampleAt overlay.width p.scale dx * 4)
        ((p.offY + dy) * srcStride + (p.offX + dx) * 3))
      (fun k => k / srcStride = p.offY + dy ∧ k % srcStride / 3 = p.offX + dx) (drawnByte overlay p srcStride) := by
  apply (blendPixel_local overlay _ _).congr
  · exact fun k => (pixel_index room).symm
  · intro k here
    obtain ⟨row, column⟩ := (pixel_index room).1 here
    have split := Nat.div_add_mod' k srcStride
    rw [row] at split
    have channel : k % srcStride % 3 = k - ((p.offY + dy) * srcStride + (p.offX + dx) * 3) := by omega
    rw [drawnByte, pixelAt, row, column, channel, Nat.add_sub_cancel_left, Nat.add_sub_cancel_left]

theorem blendRow_eq (columns : p.offX + p.drawW ≤ width) (dy : Nat) : blendRow overlay p width srcStride dy =
    fun dst => (List.range p.drawW).foldl (fun dst dx =>
      blendPixel overlay (sampleAt overlay.height p.scale dy * overlay.stride + sampleAt overlay.width p.scale dx * 4)
        ((p.offY + dy) * srcStride + (p.offX + dx) * 3) dst) dst := by
  have all : (List.range p.drawW).filter (fun dx => p.offX + dx < width) = List.range p.drawW := by
    rw [List.filter_eq_self]
    intro dx inside
    have lt := List.mem_range.1 inside
    exact decide_eq_true (by omega)
  funext dst
  rw [blendRow, all]

theorem blendRow_local (within : p.Within width height) (stride : 3 * width ≤ srcStride) (dy : Nat) :
    Local (blendRow overlay p width srcStride dy)
      (fun k => k / srcStride = p.offY + dy ∧ p.offX ≤ k % srcStride / 3 ∧ k % srcStride / 3 < p.offX + p.drawW)
      (drawnByte overlay p srcStride) := by
  have columns := within.columns
  rw [blendRow_eq columns]
  have pixels : ∀ dx ∈ List.range p.drawW, Local
      (blendPixel overlay (sampleAt overlay.height p.scale dy * overlay.stride + sampleAt overlay.width p.scale dx * 4)
        ((p.offY + dy) * srcStride + (p.offX + dx) * 3))
      (fun k => k / srcStride = p.offY + dy ∧ k % srcStride / 3 = p.offX + dx) (drawnByte overlay p srcStride) := by
    intro dx inside
    have lt := List.mem_range.1 inside
    exact drawPixel_local (by omega)
  have apart : (List.range p.drawW).Pairwise fun i j => ∀ k,
      (k / srcStride = p.offY + dy ∧ k % srcStride / 3 = p.offX + i) →
        ¬ (k / srcStride = p.offY + dy ∧ k % srcStride / 3 = p.offX + j) := by
    apply (List.pairwise_lt_range (n := p.drawW)).imp
    intro i j lt k here there
    omega
  apply (Local.foldl pixels apart).congr
  · intro k
    constructor
    · rintro ⟨row, lower, upper⟩
      exact ⟨k % srcStride / 3 - p.offX, List.mem_range.2 (by omega), row, by omega⟩
    · rintro ⟨dx, inside, row, column⟩
      have lt := List.mem_range.1 inside
      exact ⟨row, by omega, by omega⟩
  · exact fun k _ => rfl

/-- **What the loops draw.** Each byte of the rectangle is blended once, and no other is touched. -/
theorem blendAll_local (wide : 0 < width) (high : 0 < height) (stride : 3 * width ≤ srcStride) :
    Local (blendAll overlay width height srcStride) ((placement width height overlay).Covers srcStride)
      (drawnByte overlay (placement width height overlay) srcStride) := by
  have within := placement_within wide high overlay
  have rows := within.rows
  have all : (List.range (placement width height overlay).drawH).filter
      (fun dy => (placement width height overlay).offY + dy < height) =
        List.range (placement width height overlay).drawH := by
    rw [List.filter_eq_self]
    intro dy inside
    have lt := List.mem_range.1 inside
    exact decide_eq_true (by omega)
  have loops : blendAll overlay width height srcStride = fun bytes =>
      (List.range (placement width height overlay).drawH).foldl (fun dst dy =>
        blendRow overlay (placement width height overlay) width srcStride dy dst) bytes := by
    funext bytes
    simp only [blendAll, all]
  generalize placement width height overlay = p at *
  rw [loops]
  have apart : (List.range p.drawH).Pairwise fun i j => ∀ k,
      (k / srcStride = p.offY + i ∧ p.offX ≤ k % srcStride / 3 ∧ k % srcStride / 3 < p.offX + p.drawW) →
        ¬ (k / srcStride = p.offY + j ∧ p.offX ≤ k % srcStride / 3 ∧ k % srcStride / 3 < p.offX + p.drawW) := by
    apply (List.pairwise_lt_range (n := p.drawH)).imp
    intro i j lt k here there
    omega
  apply (Local.foldl (fun dy _ => blendRow_local within stride dy) apart).congr
  · intro k
    constructor
    · rintro ⟨⟨lower, upper⟩, column⟩
      exact ⟨k / srcStride - p.offY, List.mem_range.2 (by omega), by omega, column⟩
    · rintro ⟨dy, inside, row, column⟩
      have lt := List.mem_range.1 inside
      exact ⟨by omega, column⟩
  · exact fun k _ => rfl

end

/-! ## Checked accesses -/

/-- `blendPixel` with every access checked. -/
def blendPixelChecked (overlay : RgbaImage) (ovOff dstOff : Nat) (dst : List UInt8) : Option (List UInt8) := do
  let red ← overlay.pixels[ovOff]?
  let green ← overlay.pixels[ovOff + 1]?
  let blue ← overlay.pixels[ovOff + 2]?
  let alpha ← overlay.pixels[ovOff + 3]?
  if alpha = 0 then return dst
  else
    let b ← dst[dstOff]?
    let g ← dst[dstOff + 1]?
    let r ← dst[dstOff + 2]?
    return ((dst.set dstOff (blend b blue alpha)).set (dstOff + 1) (blend g green alpha)).set (dstOff + 2) (blend r red alpha)

/-- `blendAll` with every access checked: nothing comes back if one is out of bounds. -/
def blendAllChecked (overlay : RgbaImage) (frameWidth frameHeight srcStride : Nat) (bytes : List UInt8) :
    Option (List UInt8) :=
  let p := placement frameWidth frameHeight overlay
  ((List.range p.drawH).filter fun dy => p.offY + dy < frameHeight).foldlM (fun dst dy =>
    ((List.range p.drawW).filter fun dx => p.offX + dx < frameWidth).foldlM (fun dst dx =>
      blendPixelChecked overlay (sampleAt overlay.height p.scale dy * overlay.stride + sampleAt overlay.width p.scale dx * 4)
        ((p.offY + dy) * srcStride + (p.offX + dx) * 3) dst) dst) bytes

theorem blendPixel_checked {overlay : RgbaImage} {ovOff dstOff : Nat} {dst : List UInt8}
    (sample : ovOff + 3 < overlay.pixels.length) (room : dstOff + 2 < dst.length) :
    blendPixelChecked overlay ovOff dstOff dst = some (blendPixel overlay ovOff dstOff dst) := by
  have pixel : ∀ i ≤ 3, overlay.pixels[ovOff + i]? = some (overlay.pixels.getD (ovOff + i) 0) := by
    intro i le
    have lt : ovOff + i < overlay.pixels.length := by omega
    rw [List.getD_eq_getElem?_getD, List.getElem?_eq_getElem lt, Option.getD_some]
  have byte : ∀ i ≤ 2, dst[dstOff + i]? = some (dst.getD (dstOff + i) 0) := by
    intro i le
    have lt : dstOff + i < dst.length := by omega
    rw [List.getD_eq_getElem?_getD, List.getElem?_eq_getElem lt, Option.getD_some]
  have red := pixel 0 (by omega)
  have blue := byte 0 (by omega)
  rw [Nat.add_zero] at red blue
  unfold blendPixelChecked blendPixel
  simp only [red, pixel 1 (by omega), pixel 2 (by omega), pixel 3 (by omega), blue, byte 1 (by omega), byte 2 (by omega),
    Option.bind_eq_bind, Option.bind_some, Option.pure_def, Nat.add_zero]
  split
  · rfl
  · -- what is read of the second and the third byte was not touched by the writes before
    have second : ∀ v, (dst.set dstOff v).getD (dstOff + 1) 0 = dst.getD (dstOff + 1) 0 := by
      intro v
      rw [List.getD_eq_getElem?_getD, List.getElem?_set_ne (by omega), ← List.getD_eq_getElem?_getD]
    have third : ∀ v w, ((dst.set dstOff v).set (dstOff + 1) w).getD (dstOff + 2) 0 = dst.getD (dstOff + 2) 0 := by
      intro v w
      rw [List.getD_eq_getElem?_getD, List.getElem?_set_ne (by omega), List.getElem?_set_ne (by omega),
        ← List.getD_eq_getElem?_getD]
    rw [second, third]

theorem sampleAt_lt {extent : Nat} (some : 0 < extent) (scale : ℚ) (drawn : Nat) : sampleAt extent scale drawn < extent :=
  Nat.lt_of_le_of_lt (min_le_left _ _) (Nat.sub_lt some Nat.one_pos)

/-- An entry of a table that is stored by rows lies within it. -/
theorem row_entry_lt {rows stride row column : Nat} (inRow : column < stride) (inRows : row < rows) :
    row * stride + column < stride * rows := by
  have next : (row + 1) * stride ≤ rows * stride := Nat.mul_le_mul_right _ inRows
  rw [Nat.succ_mul, Nat.mul_comm rows] at next
  omega

/-- **In bounds.** Checked, the loops draw what they draw unchecked. -/
theorem blendAll_checked {overlay : RgbaImage} {width height srcStride : Nat} {bytes : List UInt8} (wide : 0 < width)
    (high : 0 < height) (visible : 0 < overlay.width ∧ 0 < overlay.height) (tight : overlay.width * 4 ≤ overlay.stride)
    (whole : overlay.stride * overlay.height ≤ overlay.pixels.length) (stride : 3 * width ≤ srcStride)
    (length : bytes.length = srcStride * height) :
    blendAllChecked overlay width height srcStride bytes = some (blendAll overlay width height srcStride bytes) := by
  have within := placement_within wide high overlay
  have columns := within.columns
  have rows := within.rows
  unfold blendAllChecked blendAll
  dsimp only
  generalize placement width height overlay = p at *
  refine (foldlM_eq_some (I := fun dst : List UInt8 => dst.length = srcStride * height) ?_ length).1
  intro dy inside dst length
  rw [List.mem_filter, List.mem_range] at inside
  refine foldlM_eq_some (I := fun dst : List UInt8 => dst.length = srcStride * height) ?_ length
  intro dx inside' dst length
  rw [List.mem_filter, List.mem_range] at inside'
  refine ⟨blendPixel_checked ?_ ?_, ((blendPixel_local overlay _ _).length dst).trans length⟩
  · have sampleY := sampleAt_lt visible.2 p.scale dy
    have sampleX := sampleAt_lt visible.1 p.scale dx
    have last : sampleAt overlay.width p.scale dx * 4 + 3 < overlay.stride := by omega
    have entry := row_entry_lt last sampleY
    omega
  · have last : (p.offX + dx) * 3 + 2 < srcStride := by omega
    have row : p.offY + dy < height := by omega
    have entry := row_entry_lt last row
    omega

/-! ## CompositeOverlay -/

/-- Past the guards: a BGR frame with data, an overlay with pixels, and as many as its sizes say. -/
structure Accepted (source : Frame) (overlay : RgbaImage) : Prop where
  format : source.format = .bgr8
  data : (source.planes.head?.bind FramePlane.data).isSome
  frame : source.geometry.width ≠ 0 ∧ source.geometry.height ≠ 0
  visible : overlay.width ≠ 0 ∧ overlay.height ≠ 0 ∧ overlay.pixels ≠ []
  rows : overlay.width * 4 ≤ overlay.stride
  whole : overlay.stride * overlay.height ≤ overlay.pixels.length

/-- What an accepted frame comes to. -/
theorem compositeOverlay_eq {source : Frame} {overlay : RgbaImage} (h : Accepted source overlay) (mem : Memory) (buf : Nat) :
    ∃ plane src, source.planes.head? = some plane ∧ plane.data = some src ∧
      compositeOverlay mem buf source overlay =
        some
          ({ source with
              memory := .cpu
              planes := [{ stride := plane.stride, data := some buf, size := plane.stride * source.geometry.height }]
              owner := some buf },
            blendAll overlay source.geometry.width source.geometry.height plane.stride
              (mem.read src (plane.stride * source.geometry.height))) := by
  obtain ⟨src, found⟩ := Option.isSome_iff_exists.1 h.data
  obtain ⟨plane, first, data⟩ := Option.bind_eq_some_iff.1 found
  obtain ⟨rest, planes⟩ : ∃ rest, source.planes = plane :: rest := by
    cases split : source.planes with
    | nil => simp [split] at first
    | cons head rest =>
      rw [split, List.head?_cons] at first
      exact ⟨rest, by rw [Option.some.inj first]⟩
  refine ⟨plane, src, first, data, ?_⟩
  have frame := not_or.2 h.frame
  have visible : ¬ (overlay.width = 0 ∨ overlay.height = 0 ∨ overlay.pixels = []) := by
    rw [not_or, not_or]
    exact h.visible
  have whole : ¬ (overlay.stride < overlay.width * 4 ∨ overlay.pixels.length < overlay.stride * overlay.height) := by
    rw [not_or, Nat.not_lt, Nat.not_lt]
    exact ⟨h.rows, h.whole⟩
  simp only [compositeOverlay, h.format, planes, data, ne_eq, not_true_eq_false, if_false, if_neg frame, if_neg visible,
    if_neg whole, Memory.length_read]

/-- **The guards.** No frame comes back exactly where a guard says so. -/
theorem compositeOverlay_eq_none_iff {source : Frame} {overlay : RgbaImage} (mem : Memory) (buf : Nat) :
    compositeOverlay mem buf source overlay = none ↔ ¬ Accepted source overlay := by
  constructor
  · intro none accepted
    obtain ⟨plane, src, -, -, some⟩ := compositeOverlay_eq accepted mem buf
    rw [none] at some
    cases some
  · intro refused
    by_contra drawn
    apply refused
    unfold compositeOverlay at drawn
    split at drawn
    · exact absurd rfl drawn
    case isFalse format =>
      split at drawn
      · exact absurd rfl drawn
      case h_2 plane rest planes =>
        split at drawn
        · exact absurd rfl drawn
        case h_2 src data =>
          split at drawn
          · exact absurd rfl drawn
          case isFalse frame =>
            split at drawn
            · exact absurd rfl drawn
            case isFalse visible =>
              split at drawn
              · exact absurd rfl drawn
              case isFalse whole =>
                rw [not_or, Nat.not_lt, Nat.not_lt] at whole
                exact
                  { format := by simpa using format
                    data := by simp [planes, data]
                    frame := not_or.1 frame
                    visible := by simpa [not_or] using visible
                    rows := whole.1
                    whole := whole.2 }

/-- The byte of the output at which a pixel starts that is drawn. -/
def drawnAt (p : Placement) (srcStride dx dy : Nat) : Nat := (p.offY + dy) * srcStride + (p.offX + dx) * 3

/-- The byte of the overlay at which its nearest pixel starts. -/
def nearestAt (overlay : RgbaImage) (p : Placement) (dx dy : Nat) : Nat :=
  sampleAt overlay.height p.scale dy * overlay.stride + sampleAt overlay.width p.scale dx * 4

/-- What a byte of the rectangle is: the blend of the byte of the source and of the overlay's. -/
structure Blended (dst ov alpha out : UInt8) : Prop where
  blend : out.toNat = (dst.toNat * (255 - alpha.toNat) + ov.toNat * alpha.toNat) / 255
  lower : min dst.toNat ov.toNat ≤ out.toNat
  upper : out.toNat ≤ max dst.toNat ov.toNat

/-- What comes back of a frame with its first plane at an address: a frame like it around the bytes
of a buffer. -/
structure Composited (mem : Memory) (buf : Nat) (source : Frame) (plane : FramePlane) (src : Nat) (overlay : RgbaImage)
    (p : Placement) (final : Frame) (bytes : List UInt8) : Prop where
  /-- No byte of the source is read that is not of its plane. -/
  readable : plane.stride * source.geometry.height ≤ plane.size
  /-- No index into the overlay or the output is out of bounds. -/
  inBounds : blendAllChecked overlay source.geometry.width source.geometry.height plane.stride
    (mem.read src (plane.stride * source.geometry.height)) = some bytes
  length : bytes.length = plane.stride * source.geometry.height
  within : p.Within source.geometry.width source.geometry.height
  centred : p.offX = (source.geometry.width - p.drawW) / 2 ∧ p.offY = (source.geometry.height - p.drawH) / 2
  kept : final.frameId = source.frameId ∧ final.capturedAt = source.capturedAt ∧ final.geometry = source.geometry ∧
    final.format = source.format
  planes : final.planes = [{ stride := plane.stride, data := some buf, size := bytes.length }]
  outside : ∀ k < bytes.length, ¬ p.Covers plane.stride k → bytes[k]? = some (mem (src + k))
  inside : ∀ dy < p.drawH, ∀ dx < p.drawW, ∀ channel < 3, ∃ ov alpha out,
    overlay.pixels[nearestAt overlay p dx dy + (2 - channel)]? = some ov ∧
      overlay.pixels[nearestAt overlay p dx dy + 3]? = some alpha ∧
      bytes[drawnAt p plane.stride dx dy + channel]? = some out ∧
      Blended (mem (src + (drawnAt p plane.stride dx dy + channel))) ov alpha out
  /-- Memory changes in the buffer only. -/
  untouched : ∀ a, ¬ (buf ≤ a ∧ a < buf + bytes.length) → mem.write buf bytes a = mem a

/-- The overlay's samples are there. -/
theorem Accepted.sample {source : Frame} {overlay : RgbaImage} (h : Accepted source overlay) (p : Placement) (dx dy : Nat)
    {i : Nat} (le : i ≤ 3) :
    overlay.pixels[nearestAt overlay p dx dy + i]? = some (overlay.pixels.getD (nearestAt overlay p dx dy + i) 0) := by
  have sampleY := sampleAt_lt (Nat.pos_of_ne_zero h.visible.2.1) p.scale dy
  have sampleX := sampleAt_lt (Nat.pos_of_ne_zero h.visible.1) p.scale dx
  have rows := h.rows
  have whole := h.whole
  have column : sampleAt overlay.width p.scale dx * 4 + i < overlay.stride := by omega
  have entry := row_entry_lt column sampleY
  have lt : nearestAt overlay p dx dy + i < overlay.pixels.length := by
    rw [nearestAt]
    omega
  rw [List.getD_eq_getElem?_getD, List.getElem?_eq_getElem lt, Option.getD_some]

/-- A byte of a pixel that is drawn: it is in the output, and covered, and what is drawn onto it is
the pixel's nearest sample. -/
theorem drawn_byte {p : Placement} {width height srcStride dx dy channel : Nat} (within : p.Within width height)
    (stride : 3 * width ≤ srcStride) (hdx : dx < p.drawW) (hdy : dy < p.drawH) (lt : channel < 3) (overlay : RgbaImage) :
    drawnAt p srcStride dx dy + channel < srcStride * height ∧ p.Covers srcStride (drawnAt p srcStride dx dy + channel) ∧
      drawnByte overlay p srcStride (drawnAt p srcStride dx dy + channel) =
        blendByte overlay (nearestAt overlay p dx dy) channel := by
  have columns := within.columns
  have rows := within.rows
  have inside : (p.offX + dx + 1) * 3 ≤ srcStride := by omega
  have index : (drawnAt p srcStride dx dy + channel) / srcStride = p.offY + dy ∧
      (drawnAt p srcStride dx dy + channel) % srcStride / 3 = p.offX + dx :=
    (pixel_index inside).1 (by rw [drawnAt]; omega)
  have split := Nat.div_add_mod' (drawnAt p srcStride dx dy + channel) srcStride
  rw [index.1] at split
  refine ⟨?_, ⟨⟨by omega, by omega⟩, ⟨by omega, by omega⟩⟩, ?_⟩
  · have column : (p.offX + dx) * 3 + channel < srcStride := by omega
    have row : p.offY + dy < height := by omega
    have entry := row_entry_lt column row
    rw [drawnAt]
    omega
  · have behind : (drawnAt p srcStride dx dy + channel) % srcStride % 3 = channel := by
      rw [drawnAt] at split ⊢
      omega
    rw [drawnByte, behind, pixelAt, index.1, index.2, Nat.add_sub_cancel_left, Nat.add_sub_cancel_left, nearestAt]

/-- A grey frame of one pixel, with a byte of padding. -/
def greyPixel : Frame :=
  { format := .bgr8, geometry := { width := 1, height := 1 }, planes := [{ stride := 4, data := some 16, size := 4 }] }

/-- An overlay of one half transparent pixel. -/
def halfRed : RgbaImage := { width := 1, height := 1, stride := 4, pixels := [255, 0, 0, 128] }

end FrameCompositor

end SstCam
