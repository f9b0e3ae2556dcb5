import Mathlib.Data.Rat.Floor
import SstCam.Buffer.MaterializeFrame

/-!
# CompositeOverlay

Blends an overlay image onto a BGR frame (`domain/overlay/services/frame-compositor.cpp`). The
overlay is scaled by one factor, taken as an exact rational, and centred. The source's bytes are
copied to a buffer of the result first.
-/

namespace SstCam
set_option autoImplicit false

/-- An RGBA image, four bytes a pixel. -/
structure RgbaImage where
  width : Nat := 0
  height : Nat := 0
  stride : Nat := 0
  pixels : List UInt8 := []
  deriving DecidableEq, Repr

namespace FrameCompositor

/-- Where and how large the overlay is drawn on the frame. -/
structure Placement where
  scale : ℚ
  drawW : Nat
  drawH : Nat
  offX : Nat
  offY : Nat

def placement (frameWidth frameHeight : Nat) (overlay : RgbaImage) : Placement :=
  let scale := min ((frameWidth : ℚ) / overlay.width) ((frameHeight : ℚ) / overlay.height)
  let drawW := max 1 (overlay.width * scale).floor.toNat
  let drawH := max 1 (overlay.height * scale).floor.toNat
  { scale, drawW, drawH, offX := (frameWidth - min frameWidth drawW) / 2, offY := (frameHeight - min frameHeight drawH) / 2 }

/-- A channel of the blend: the source's share and the overlay's. -/
def blend (dst channel alpha : UInt8) : UInt8 :=
  UInt8.ofNat ((dst.toNat * (255 - alpha.toNat) + channel.toNat * alpha.toNat) / 255)

/-- Blends the overlay's pixel at an offset onto the frame's. A transparent one leaves it. -/
def blendPixel (overlay : RgbaImage) (ovOff dstOff : Nat) (dst : List UInt8) : List UInt8 :=
  let pixel (i : Nat) : UInt8 := overlay.pixels.getD (ovOff + i) 0
  if pixel 3 = 0 then dst
  else
    let blended (i channel : Nat) (dst : List UInt8) : List UInt8 :=
      dst.set (dstOff + i) (blend (dst.getD (dstOff + i) 0) (pixel channel) (pixel 3))
    blended 2 0 (blended 1 1 (blended 0 2 dst))

/-- The overlay's sample for a drawn row or column: the nearest, within the overlay. -/
def sampleAt (extent : Nat) (scale : ℚ) (drawn : Nat) : Nat := min (extent - 1) (drawn / scale).floor.toNat

def blendRow (overlay : RgbaImage) (p : Placement) (frameWidth srcStride dy : Nat) (dst : List UInt8) : List UInt8 :=
  ((List.range p.drawW).filter fun dx => p.offX + dx < frameWidth).foldl (fun dst dx =>
    blendPixel overlay (sampleAt overlay.height p.scale dy * overlay.stride + sampleAt overlay.width p.scale dx * 4)
      ((p.offY + dy) * srcStride + (p.offX + dx) * 3) dst) dst

/-- The two loops over what is drawn. -/
def blendAll (overlay : RgbaImage) (frameWidth frameHeight srcStride : Nat) (bytes : List UInt8) : List UInt8 :=
  let p := placement frameWidth frameHeight overlay
  ((List.range p.drawH).filter fun dy => p.offY + dy < frameHeight).foldl (fun dst dy =>
    blendRow overlay p frameWidth srcStride dy dst) bytes

end FrameCompositor

/-- The blended frame with the bytes of its buffer `buf`. -/
def compositeOverlay (mem : Memory) (buf : Nat) (source : Frame) (overlay : RgbaImage) : Option (Frame × List UInt8) :=
  if source.format ≠ .bgr8 then none
  else
    match source.planes with
    | [] => none
    | plane :: _ =>
      match plane.data with
      | none => none
      | some src =>
        if source.geometry.width = 0 ∨ source.geometry.height = 0 then none
        else if overlay.width = 0 ∨ overlay.height = 0 ∨ overlay.pixels = [] then none
        else if overlay.stride < overlay.width * 4 ∨ overlay.pixels.length < overlay.stride * overlay.height then none
        else
          let bytes := mem.read src (plane.stride * source.geometry.height)
          some
            ({ source with
                memory := .cpu
                planes := [{ stride := plane.stride, data := some buf, size := bytes.length }]
                owner := some buf },
              FrameCompositor.blendAll overlay source.geometry.width source.geometry.height plane.stride bytes)

/-- The frame keeps its id. -/
theorem compositeOverlay_frameId {mem : Memory} {buf : Nat} {source final : Frame} {overlay : RgbaImage}
    {bytes : List UInt8} (h : compositeOverlay mem buf source overlay = some (final, bytes)) :
    final.frameId = source.frameId := by
  unfold compositeOverlay at h
  repeat' split at h
  all_goals cases h
  rfl

end SstCam
