import SstCam.Processing.FrameMat

/-!
# The OpenCV stages

The preprocessor and the postprocessor of the pipeline (`adapters/processing/opencv`). OpenCV
resizes and converts the pixels; what the stages decide, and all of a frame but its pixels, is
theirs. `buf` is the address of the buffer a stage allocates.
-/

namespace SstCam
set_option autoImplicit false

inductive ColorMode where
  | grayscale
  | binary
  | rgb
  deriving DecidableEq, Repr

structure PreprocessConfig where
  aiWidth : Nat := 640
  aiHeight : Nat := 640
  aiColorMode : ColorMode := .grayscale
  binaryThreshold : Nat := 127
  deriving DecidableEq, Repr

structure PostprocessConfig where
  outputWidth : Nat := 1280
  outputHeight : Nat := 720
  outputFormat : PixelFormat := .bgr8
  deriving DecidableEq, Repr

/-- A region of a source frame, in its pixels. -/
structure CropRect where
  x : Nat := 0
  y : Nat := 0
  width : Nat := 0
  height : Nat := 0
  deriving DecidableEq, Repr

/-- A `cv::Rect`. -/
structure CvRect where
  x : Int
  y : Int
  width : Int
  height : Int
  deriving DecidableEq, Repr

/-- The region lies in a matrix of so many columns and rows. -/
def CvRect.Inside (roi : CvRect) (cols rows : Nat) : Prop :=
  0 ≤ roi.x ∧ 0 ≤ roi.width ∧ roi.x + roi.width ≤ cols ∧ 0 ≤ roi.y ∧ 0 ≤ roi.height ∧ roi.y + roi.height ≤ rows

instance (roi : CvRect) (cols rows : Nat) : Decidable (roi.Inside cols rows) := inferInstanceAs (Decidable (_ ∧ _))

/-- What OpenCV asserts of a region of a matrix. Its sums are `int`s. -/
class OpenCvAssertions where
  within : CvRect → Nat → Nat → Bool
  within_iff : ∀ (roi : CvRect) (cols rows : Nat), roi.x + roi.width < 2 ^ 31 → roi.y + roi.height < 2 ^ 31 →
    (within roi cols rows = true ↔ roi.Inside cols rows)

/-- The assertion as it is documented. -/
instance (priority := low) OpenCvAssertions.documented : OpenCvAssertions where
  within roi cols rows := decide (roi.Inside cols rows)
  within_iff _ _ _ _ _ := decide_eq_true_iff

/-- `static_cast<int>` of a `uint32`. -/
def castInt (n : Nat) : Int := if n < 2 ^ 31 then n else n - 2 ^ 32

def CropRect.toRect (crop : CropRect) : CvRect where
  x := castInt crop.x
  y := castInt crop.y
  width := castInt crop.width
  height := castInt crop.height

/-- Sizes as OpenCV takes them. -/
def intSizes (cols rows : Nat) : Bool := cols < 2 ^ 31 && rows < 2 ^ 31

/-- Both frames carry the same id and the same time. -/
structure FrameBundle where
  sourceFrame : Frame
  aiFrame : Frame
  deriving DecidableEq, Repr

/-- A compact frame of one plane, for a matrix of so many columns, rows and channels. -/
def makeOwnedFrame (cols rows channels : Nat) (format : PixelFormat) (frameId capturedAt buf : Nat) : Frame where
  frameId := frameId
  format := format
  memory := .cpu
  geometry := { width := cols, height := rows }
  capturedAt := capturedAt
  planes := [{ stride := cols * channels, data := some buf, size := rows * (cols * channels) }]
  owner := some buf

namespace OpenCvPreprocessor

/-- The bundle of a frame, with a matrix of the frame's sizes resized for the AI. -/
def bundle (config : PreprocessConfig) (buf : Nat) (raw : Frame) (format : PixelFormat) (channels : Nat) :
    Except CvException (Option FrameBundle) :=
  if !intSizes raw.geometry.width raw.geometry.height then .error .size
  else if !intSizes config.aiWidth config.aiHeight then .error .size
  else
    .ok (some
      { aiFrame := makeOwnedFrame config.aiWidth config.aiHeight channels format raw.frameId raw.capturedAt buf
        sourceFrame := raw })

def process (config : PreprocessConfig) (mem : Memory) (buf : Nat) (raw : Frame) : Except CvException (Option FrameBundle) :=
  if raw.format ≠ .nv12 then .ok none
  else if raw.memory ≠ .cpu then .ok none
  else if raw.planes.length ≠ 2 then .ok none
  else if raw.geometry.width = 0 ∨ raw.geometry.height = 0 ∨ raw.geometry.width % 2 ≠ 0 ∨ raw.geometry.height % 2 ≠ 0 then
    .ok none
  else if config.aiWidth = 0 ∨ config.aiHeight = 0 then .ok none
  else
    match config.aiColorMode with
    | .grayscale => bundle config buf raw .gray8 1
    | .binary => bundle config buf raw .gray8 1
    | .rgb =>
      match wrapNv12 mem raw with
      | .error e => .error e
      | .ok none => .ok none
      | .ok (some _) => bundle config buf raw .rgb8 3

/-- The frame becomes a bundle. -/
def accepts (config : PreprocessConfig) (mem : Memory) (buf : Nat) (raw : Frame) : Bool :=
  match process config mem buf raw with
  | .ok (some _) => true
  | _ => false

theorem bundle_sourceFrame {config : PreprocessConfig} {buf : Nat} {raw : Frame} {format : PixelFormat} {channels : Nat}
    {made : FrameBundle} (h : bundle config buf raw format channels = .ok (some made)) : made.sourceFrame = raw := by
  unfold bundle at h
  repeat' split at h
  all_goals cases h
  all_goals rfl

/-- The source frame goes through as it is. -/
theorem process_sourceFrame {config : PreprocessConfig} {mem : Memory} {buf : Nat} {raw : Frame} {made : FrameBundle}
    (h : process config mem buf raw = .ok (some made)) : made.sourceFrame = raw := by
  unfold process at h
  repeat' split at h
  all_goals first
    | exact bundle_sourceFrame h
    | cases h

end OpenCvPreprocessor

namespace OpenCvPostprocessor

/-- The channels of an output format; other formats are not supported. -/
def outputChannels : PixelFormat → Option Nat
  | .bgr8 => some 3
  | .rgb8 => some 3
  | .gray8 => some 1
  | _ => none

/-- The sums of the crop test are `uint32`, and the region and the output are made of `int`s. -/
def process [OpenCvAssertions] (config : PostprocessConfig) (mem : Memory) (buf : Nat) (source : Frame) (crop : CropRect) :
    Except CvException (Option Frame) :=
  if source.format ≠ .nv12 then .ok none
  else if source.memory ≠ .cpu then .ok none
  else if source.geometry.width = 0 ∨ source.geometry.height = 0 then .ok none
  else if crop.width = 0 ∨ crop.height = 0 ∨ (crop.x + crop.width) % 2 ^ 32 > source.geometry.width ∨
      (crop.y + crop.height) % 2 ^ 32 > source.geometry.height then .ok none
  else if config.outputWidth = 0 ∨ config.outputHeight = 0 then .ok none
  else
    match outputChannels config.outputFormat with
    | none => .ok none
    | some channels =>
      match wrapNv12 mem source with
      | .error e => .error e
      | .ok none => .ok none
      | .ok (some _) =>
        if !OpenCvAssertions.within crop.toRect source.geometry.width source.geometry.height then .error .regionOfInterest
        else if !intSizes config.outputWidth config.outputHeight then .error .size
        else
          .ok (some (makeOwnedFrame config.outputWidth config.outputHeight channels config.outputFormat source.frameId
            source.capturedAt buf))

/-- The result is of the frame it was made from. -/
theorem process_frameId [OpenCvAssertions] {config : PostprocessConfig} {mem : Memory} {buf : Nat} {source final : Frame}
    {crop : CropRect}
    (h : process config mem buf source crop = .ok (some final)) : final.frameId = source.frameId := by
  unfold process at h
  repeat' split at h
  all_goals cases h
  all_goals rfl

end OpenCvPostprocessor

end SstCam
